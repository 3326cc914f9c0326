import HidRelay.Proofs.Pointer.Movement

/-!
How a host reads the packets of the mouse wire: nine bits of two's complement along each axis, the
sign and an overflow flag in the status byte, and up as positive. Reading an encoded motion gives its
movement as far as nine bits reach.
-/

set_option autoImplicit false

namespace HidRelay.Pointer

namespace Axis

def signBit : Axis → UInt8
  | .x => 0x10
  | .y => 0x20

def overflowBit : Axis → UInt8
  | .x => 0x40
  | .y => 0x80

-- A report counts down as positive, a packet up.
def direction : Axis → Int
  | .x => 1
  | .y => -1

end Axis

namespace Host

def movement (axis : Axis) : Bytes → Int
  | status :: x :: y :: _ =>
      let low := match axis with
        | .x => x.toNat
        | .y => y.toNat
      Word.toSigned 9 (low + if status &&& axis.signBit = 0 then 0 else 256)
  | _ => 0

def overflows (axis : Axis) : Bytes → Bool
  | status :: _ => status &&& axis.overflowBit ≠ 0
  | [] => false

end Host

def Motion.announced (axis : Axis) (motion : Motion) : Int :=
  match axis with
  | .x => motion.dx
  | .y => Word.cappedNeg motion.dy

theorem or_and (left right mask : UInt8) : (left ||| right) &&& mask = (left &&& mask) ||| (right &&& mask) := by
  apply UInt8.toBitVec_inj.mp
  apply BitVec.eq_of_getLsbD_eq
  intro i _
  simp [Bool.and_or_distrib_right]

theorem flag_and (mask other : UInt8) (raised : Bool) : flag mask raised &&& other = flag (mask &&& other) raised := by
  cases raised with
  | false => exact UInt8.zero_and
  | true => rfl

theorem flag_zero (raised : Bool) : flag 0 raised = 0 := by
  cases raised with
  | false => rfl
  | true => rfl

theorem flag_raised (mask : UInt8) (raised : Bool) (some : mask ≠ 0) : flag mask raised = 0 ↔ raised = false := by
  cases raised with
  | false => exact ⟨fun _ => rfl, fun _ => rfl⟩
  | true => exact ⟨fun zero => absurd zero some, fun impossible => nomatch impossible⟩

theorem status_and (buttons mask : UInt8) (x y : NineBit) :
    Motion.status buttons x y &&& mask =
      (buttons &&& (0x07 &&& mask)) ||| (0x08 &&& mask) ||| flag (0x10 &&& mask) (x.value < 0)
        ||| flag (0x20 &&& mask) (y.value < 0) ||| flag (0x40 &&& mask) x.overflow
        ||| flag (0x80 &&& mask) y.overflow := by
  simp only [Motion.status, or_and, flag_and, UInt8.and_assoc]

theorem status_flags (buttons : UInt8) (x y : NineBit) :
    Motion.status buttons x y &&& 0x10 = flag 0x10 (x.value < 0) ∧
    Motion.status buttons x y &&& 0x20 = flag 0x20 (y.value < 0) ∧
    Motion.status buttons x y &&& 0x40 = flag 0x40 x.overflow ∧
    Motion.status buttons x y &&& 0x80 = flag 0x80 y.overflow := by
  refine ⟨?_, ?_, ?_, ?_⟩
  all_goals rw [status_and]
  · change (buttons &&& 0) ||| 0 ||| flag 0x10 _ ||| flag 0 _ ||| flag 0 _ ||| flag 0 _ = _
    simp only [flag_zero, UInt8.and_zero, UInt8.zero_or, UInt8.or_zero]
  · change (buttons &&& 0) ||| 0 ||| flag 0 _ ||| flag 0x20 _ ||| flag 0 _ ||| flag 0 _ = _
    simp only [flag_zero, UInt8.and_zero, UInt8.zero_or, UInt8.or_zero]
  · change (buttons &&& 0) ||| 0 ||| flag 0 _ ||| flag 0 _ ||| flag 0x40 _ ||| flag 0 _ = _
    simp only [flag_zero, UInt8.and_zero, UInt8.zero_or, UInt8.or_zero]
  · change (buttons &&& 0) ||| 0 ||| flag 0 _ ||| flag 0 _ ||| flag 0 _ ||| flag 0x80 _ = _
    simp only [flag_zero, UInt8.and_zero, UInt8.zero_or, UInt8.or_zero]

def statusOf (motion : Motion) : UInt8 :=
  Motion.status motion.buttons (nineBit motion.dx) (nineBit (Word.cappedNeg motion.dy))

theorem status_sign (motion : Motion) (axis : Axis) :
    statusOf motion &&& axis.signBit = 0 ↔ ¬ (nineBit (motion.announced axis)).value < 0 := by
  obtain ⟨xSign, ySign, _, _⟩ := status_flags motion.buttons (nineBit motion.dx) (nineBit (Word.cappedNeg motion.dy))
  cases axis with
  | x => rw [statusOf, Axis.signBit, xSign, flag_raised _ _ (by decide), decide_eq_false_iff_not]; rfl
  | y => rw [statusOf, Axis.signBit, ySign, flag_raised _ _ (by decide), decide_eq_false_iff_not]; rfl

theorem status_overflow (motion : Motion) (axis : Axis) :
    statusOf motion &&& axis.overflowBit = 0 ↔ (nineBit (motion.announced axis)).overflow = false := by
  obtain ⟨_, _, xOver, yOver⟩ := status_flags motion.buttons (nineBit motion.dx) (nineBit (Word.cappedNeg motion.dy))
  cases axis with
  | x => rw [statusOf, Axis.overflowBit, xOver, flag_raised _ _ (by decide)]; rfl
  | y => rw [statusOf, Axis.overflowBit, yOver, flag_raised _ _ (by decide)]; rfl

theorem nine_bit_reading (value : Int) (above : -256 ≤ value) (below : value ≤ 255) :
    Word.toSigned 9 ((UInt8.ofInt value).toNat + if value < 0 then 256 else 0) = value := by
  have low : (UInt8.ofInt value).toNat = (value % 256).toNat :=
    UInt8.toNat_ofNat_of_lt' (by show (value % 256).toNat < 256; omega)
  have span : Word.span 9 = 512 := rfl
  rw [low, Word.toSigned, span]
  split <;> split <;> omega

theorem encode_bytes (protocol : Protocol) (motion : Motion) :
    motion.encode protocol = statusOf motion :: UInt8.ofInt (nineBit (motion.announced .x)).value ::
      UInt8.ofInt (nineBit (motion.announced .y)).value :: motion.wheelByte protocol := rfl

theorem host_movement_encode (axis : Axis) (protocol : Protocol) (motion : Motion) :
    Host.movement axis (motion.encode protocol) = Word.clamp (-256) 255 (motion.announced axis) := by
  obtain ⟨above, below⟩ := Word.clamp_bounds (-256) 255 (motion.announced axis) (by decide)
  have sign := status_sign motion axis
  refine Eq.trans ?_ (nine_bit_reading _ above below)
  rw [encode_bytes]
  cases axis with
  | x => simp only [Host.movement, sign, ite_not]; rfl
  | y => simp only [Host.movement, sign, ite_not]; rfl

theorem host_overflows_encode (axis : Axis) (protocol : Protocol) (motion : Motion) :
    Host.overflows axis (motion.encode protocol) = (nineBit (motion.announced axis)).overflow := by
  have raised := status_overflow motion axis
  rw [encode_bytes, Host.overflows]
  simp [raised]

theorem announced_exact (axis : Axis) (motion : Motion) (small : (motion.along axis).natAbs ≤ 255) :
    motion.announced axis = axis.direction * motion.along axis := by
  cases axis with
  | x => exact (Int.one_mul _).symm
  | y =>
      have small : motion.dy.natAbs ≤ 255 := small
      have range : Word.cappedNeg motion.dy = -motion.dy := in_range (-motion.dy) (by omega)
      rw [Motion.announced, range, Axis.direction, Motion.along]
      omega

theorem announced_fits (axis : Axis) (motion : Motion) (small : (motion.along axis).natAbs ≤ 255) :
    Word.clamp (-256) 255 (motion.announced axis) = motion.announced axis := by
  have exact := announced_exact axis motion small
  apply Word.clamp_of_within
  · cases axis <;> simp only [Axis.direction] at exact <;> omega
  · cases axis <;> simp only [Axis.direction] at exact <;> omega

theorem host_movement_small (axis : Axis) (protocol : Protocol) (motion : Motion)
    (small : (motion.along axis).natAbs ≤ 255) :
    Host.movement axis (motion.encode protocol) = axis.direction * motion.along axis := by
  rw [host_movement_encode, announced_fits axis motion small, announced_exact axis motion small]

theorem host_overflows_small (axis : Axis) (protocol : Protocol) (motion : Motion)
    (small : (motion.along axis).natAbs ≤ 255) : Host.overflows axis (motion.encode protocol) = false := by
  have fits : (nineBit (motion.announced axis)).value = motion.announced axis := announced_fits axis motion small
  rw [host_overflows_encode]
  exact decide_eq_false fun cut => cut fits

end HidRelay.Pointer
