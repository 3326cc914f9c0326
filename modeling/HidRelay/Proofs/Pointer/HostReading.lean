import HidRelay.Proofs.Pointer.HostWheel

/-!
All that a host reads off a packet. The sign is turned within 32 bits, where the lowest number has no
opposite; the fields are so much narrower that the cut hides it.
-/

set_option autoImplicit false

namespace HidRelay.Pointer

def Host.bit (packet : Bytes) (place index : Nat) : Bool := (packet.getD place 0).toNat.testBit index

theorem capped_neg_clamped (low high value : Int) (lowFits : Word.least ≤ low) (highFits : high ≤ Word.greatest)
    (ordered : low ≤ high) : Word.clamp low high (Word.cappedNeg value) = Word.clamp low high (-value) := by
  simp only [Word.cappedNeg, Word.clamp]
  omega

theorem capped_neg_within (low high value : Int) (lowFits : Word.least < low) (highFits : high < Word.greatest) :
    (Word.cappedNeg value < low ∨ high < Word.cappedNeg value) ↔ (-value < low ∨ high < -value) := by
  simp only [Word.cappedNeg, Word.clamp]
  omega

theorem announced_clamped (axis : Axis) (motion : Motion) :
    Word.clamp (-256) 255 (motion.announced axis) = Word.clamp (-256) 255 (axis.direction * motion.along axis) := by
  cases axis with
  | x => rw [Axis.direction, Int.one_mul]; rfl
  | y =>
      rw [Axis.direction, Int.neg_one_mul]
      exact capped_neg_clamped (-256) 255 motion.dy (by decide) (by decide) (by decide)

theorem announced_outside (axis : Axis) (motion : Motion) :
    (motion.announced axis < -256 ∨ 255 < motion.announced axis) ↔
      (axis.direction * motion.along axis < -256 ∨ 255 < axis.direction * motion.along axis) := by
  cases axis with
  | x => rw [Axis.direction, Int.one_mul]; rfl
  | y =>
      rw [Axis.direction, Int.neg_one_mul]
      exact capped_neg_within (-256) 255 motion.dy (by decide) (by decide)

theorem nine_bit_overflow (movement : Int) : (nineBit movement).overflow = true ↔ movement < -256 ∨ 255 < movement := by
  have cut : (nineBit movement).overflow = true ↔ Word.clamp (-256) 255 movement ≠ movement := decide_eq_true_iff
  rw [cut, Word.clamp]
  omega

theorem announced_turn_exact (protocol : Protocol) (motion : Motion) :
    motion.announcedTurn protocol = Word.clamp protocol.wheelMin protocol.wheelMax (-motion.wheel) := by
  apply capped_neg_clamped
  all_goals cases protocol <;> decide

theorem flag_bit (mask : UInt8) (raised : Bool) (index : Nat) :
    (flag mask raised).toNat.testBit index = (raised && mask.toNat.testBit index) := by
  cases raised with
  | false => exact Nat.zero_testBit index
  | true => rfl

theorem status_low (buttons : UInt8) (x y : NineBit) (index : Nat) (low : index < 4) :
    (Motion.status buttons x y).toNat.testBit index = (decide (index = 3) || buttons.toNat.testBit index) := by
  have masks : ∀ index < 4, (0x07 : UInt8).toNat.testBit index = decide (index ≠ 3) ∧
      (0x08 : UInt8).toNat.testBit index = decide (index = 3) ∧
      (0x10 : UInt8).toNat.testBit index = false ∧ (0x20 : UInt8).toNat.testBit index = false ∧
      (0x40 : UInt8).toNat.testBit index = false ∧ (0x80 : UInt8).toNat.testBit index = false := by decide
  obtain ⟨buttonBits, mark, noX, noY, noXOver, noYOver⟩ := masks index low
  simp only [Motion.status, UInt8.toNat_or, UInt8.toNat_and, Nat.testBit_or, Nat.testBit_and, flag_bit, buttonBits,
    mark, noX, noY, noXOver, noYOver, Bool.and_false, Bool.or_false]
  by_cases marked : index = 3 <;> simp [marked]

-- The side buttons stand one bit higher than in the motion, with nothing above them.
theorem side_bits (turn buttons : UInt8) (index : Nat) (upper : 4 ≤ index) (inside : index < 8) :
    ((turn &&& 0x0F) ||| ((buttons &&& (0x18 : UInt8)) <<< (1 : UInt8))).toNat.testBit index =
      (decide (index < 6) && buttons.toNat.testBit (index - 1)) := by
  have masks : ∀ index < 8, 4 ≤ index → (0x0F : UInt8).toNat.testBit index = false ∧
      (0x18 : UInt8).toNat.testBit (index - 1) = decide (index < 6) := by decide
  obtain ⟨noTurn, side⟩ := masks index inside upper
  have one : (1 : UInt8).toNat % 8 = 1 := rfl
  have reached : decide (1 ≤ index) = true := decide_eq_true (by omega)
  simp only [UInt8.toNat_or, UInt8.toNat_and, UInt8.toNat_shiftLeft, Nat.testBit_or, Nat.testBit_and,
    Nat.testBit_mod_two_pow, Nat.testBit_shiftLeft, one, noTurn, side, inside, decide_true, ge_iff_le, reached,
    Bool.and_false, Bool.false_or, Bool.true_and]
  exact Bool.and_comm _ _

theorem encode_reads_back (protocol : Protocol) (motion : Motion) :
    let packet := motion.encode protocol
    packet.length = protocol.packetLength ∧ Host.bit packet 0 3 = true ∧
    (∀ axis : Axis, Host.movement axis packet = Word.clamp (-256) 255 (axis.direction * motion.along axis)) ∧
    (∀ axis : Axis, Host.overflows axis packet = true ↔
      axis.direction * motion.along axis < -256 ∨ 255 < axis.direction * motion.along axis) ∧
    (∀ index < 3, Host.bit packet 0 index = motion.buttons.toNat.testBit index) ∧
    Host.turn protocol packet = Word.clamp protocol.wheelMin protocol.wheelMax (-motion.wheel) ∧
    (protocol = .explorer →
      Host.bit packet 3 4 = motion.buttons.toNat.testBit 3 ∧ Host.bit packet 3 5 = motion.buttons.toNat.testBit 4 ∧
      Host.bit packet 3 6 = false ∧ Host.bit packet 3 7 = false) := by
  intro packet
  refine ⟨Motion.encode_length protocol motion, ?_, ?_, ?_, ?_, ?_, ?_⟩
  · exact status_low motion.buttons _ _ 3 (by decide)
  · intro axis
    rw [host_movement_encode, announced_clamped]
  · intro axis
    rw [host_overflows_encode, nine_bit_overflow, announced_outside]
  · intro index low
    have mark : decide (index = 3) = false := decide_eq_false (by omega)
    refine (status_low motion.buttons _ _ index (by omega)).trans ?_
    rw [mark, Bool.false_or]
  · rw [host_turn_encode, announced_turn_exact]
  · rintro rfl
    have side := side_bits (UInt8.ofInt (motion.announcedTurn .explorer)) motion.buttons
    exact ⟨side 4 (by decide) (by decide), side 5 (by decide) (by decide), side 6 (by decide) (by decide),
      side 7 (by decide) (by decide)⟩

end HidRelay.Pointer
