import HidRelay.Proofs.Pointer.HostPackets

set_option autoImplicit false

namespace HidRelay.Pointer

inductive Count where
  | movement (axis : Axis)
  | wheel
deriving DecidableEq, Repr

-- What a motion shares with its first part, and also shares with a part if what the first leaves does, it shares with all.
theorem Motion.every_part (protocol : Protocol) (shared : Motion → Motion → Prop)
    (first : ∀ motion, shared motion (motion.limited protocol 1))
    (later : ∀ motion part, shared (motion.minus (motion.limited protocol 1)) part → shared motion part)
    (motion part : Motion) (parts : Nat) (member : part ∈ motion.partsOf protocol parts) : shared motion part := by
  induction parts generalizing motion with
  | zero => exact absurd member List.not_mem_nil
  | succ more ih =>
      rw [partsOf] at member
      rcases List.mem_cons.mp member with own | behind
      · rw [own]
        exact first motion
      · split at behind
        · exact absurd behind List.not_mem_nil
        · exact later motion part (ih _ behind)

namespace Count

def of (count : Count) (motion : Motion) : Int :=
  match count with
  | .movement axis => motion.along axis
  | .wheel => motion.wheel

def low (protocol : Protocol) : Count → Int
  | .movement _ => -maxDelta
  | .wheel => protocol.wheelMin

def high (protocol : Protocol) : Count → Int
  | .movement _ => maxDelta
  | .wheel => protocol.wheelMax

def Within (protocol : Protocol) (parts : Nat) (count : Count) (motion : Motion) : Prop :=
  count.low protocol * parts ≤ count.of motion ∧ count.of motion ≤ count.high protocol * parts

theorem range_around_zero (protocol : Protocol) (count : Count) : count.low protocol ≤ 0 ∧ 0 ≤ count.high protocol := by
  cases count with
  | movement axis =>
      change -maxDelta ≤ 0 ∧ 0 ≤ maxDelta
      decide
  | wheel => cases protocol <;> exact ⟨by decide, by decide⟩

theorem ranges_around_zero (protocol : Protocol) (parts : Nat) (count : Count) :
    count.low protocol * parts ≤ 0 ∧ 0 ≤ count.high protocol * parts := by
  obtain ⟨low, high⟩ := count.range_around_zero protocol
  exact ⟨Int.mul_nonpos_of_nonpos_of_nonneg low (Int.natCast_nonneg parts),
    Int.mul_nonneg high (Int.natCast_nonneg parts)⟩

theorem of_limited (protocol : Protocol) (parts : Nat) (count : Count) (motion : Motion) :
    count.of (motion.limited protocol parts) =
      Word.clamp (count.low protocol * parts) (count.high protocol * parts) (count.of motion) := by
  cases count with
  | movement axis =>
      rw [low, high, Int.neg_mul]
      cases axis with
      | x => rfl
      | y => rfl
  | wheel => rfl

theorem of_minus (count : Count) (motion part : Motion) :
    count.of (motion.minus part) = count.of motion - count.of part := by
  cases count with
  | movement axis =>
      cases axis with
      | x => rfl
      | y => rfl
  | wheel => rfl

theorem of_still (count : Count) (motion : Motion) (still : motion.isStill = true) : count.of motion = 0 := by
  have parts := of_decide_eq_true still
  cases count with
  | movement axis =>
      cases axis with
      | x => exact parts.1
      | y => exact parts.2.1
  | wheel => exact parts.2.2

theorem limited_within (protocol : Protocol) (parts : Nat) (count : Count) (motion : Motion) :
    count.Within protocol parts (motion.limited protocol parts) := by
  obtain ⟨low, high⟩ := count.ranges_around_zero protocol parts
  rw [Within, of_limited]
  exact Word.clamp_bounds _ _ _ (Int.le_trans low high)

theorem minus_within (protocol : Protocol) (more : Nat) (count : Count) (motion : Motion)
    (room : count.Within protocol (more + 1) motion) :
    count.Within protocol more (motion.minus (motion.limited protocol 1)) := by
  obtain ⟨low, high⟩ := count.range_around_zero protocol
  obtain ⟨lowMore, highMore⟩ := count.ranges_around_zero protocol more
  obtain ⟨above, below⟩ := room
  rw [Int.natCast_succ, Int.mul_add, Int.mul_one] at above below
  rw [Within, of_minus, of_limited, Word.clamp, Int.natCast_one, Int.mul_one, Int.mul_one]
  omega

theorem parts_within (protocol : Protocol) (count : Count) (motion part : Motion) (parts : Nat)
    (member : part ∈ motion.partsOf protocol parts) : count.Within protocol 1 part :=
  Motion.every_part protocol (fun _ part => count.Within protocol 1 part) (count.limited_within protocol 1)
    (fun _ _ within => within) motion part parts member

theorem parts_sum (protocol : Protocol) (count : Count) (motion : Motion) (parts : Nat)
    (room : count.Within protocol parts motion) :
    ((motion.partsOf protocol parts).map count.of).sum = count.of motion := by
  induction parts generalizing motion with
  | zero =>
      obtain ⟨above, below⟩ := room
      have nothing : count.of motion = 0 := by
        rw [Int.natCast_zero, Int.mul_zero] at above below
        omega
      exact nothing.symm
  | succ more ih =>
      have left := count.of_minus motion (motion.limited protocol 1)
      rw [Motion.partsOf, List.map_cons, List.sum_cons]
      split
      case isTrue still =>
        have nothing := count.of_still _ still
        rw [List.map_nil, List.sum_nil]
        omega
      case isFalse moving =>
        rw [ih _ (count.minus_within protocol more motion room)]
        omega

theorem split_within (protocol : Protocol) (count : Count) (motion part : Motion)
    (member : part ∈ motion.split protocol) : count.Within protocol 1 part :=
  count.parts_within protocol (motion.limited protocol maxParts) part maxParts member

theorem split_sum (protocol : Protocol) (count : Count) (motion : Motion) :
    ((motion.split protocol).map count.of).sum =
      Word.clamp (count.low protocol * maxParts) (count.high protocol * maxParts) (count.of motion) := by
  rw [Motion.split, parts_sum protocol count _ maxParts (count.limited_within protocol maxParts motion), of_limited]

end Count

namespace Motion

theorem split_small (axis : Axis) (protocol : Protocol) (motion part : Motion)
    (member : part ∈ motion.split protocol) : (part.along axis).natAbs ≤ 255 := by
  have within : -255 * 1 ≤ part.along axis ∧ part.along axis ≤ 255 * 1 :=
    (Count.movement axis).split_within protocol motion part member
  omega

theorem split_carries (axis : Axis) (protocol : Protocol) (motion : Motion) :
    carried axis (motion.split protocol) = Word.clamp (-1020) 1020 (motion.along axis) :=
  (Count.movement axis).split_sum protocol motion

theorem host_movement_parts (axis : Axis) (protocol : Protocol) (parts : List Motion)
    (small : ∀ part ∈ parts, (part.along axis).natAbs ≤ 255) :
    (parts.map fun part => Host.movement axis (part.encode protocol)).sum = axis.direction * carried axis parts := by
  apply sum_scaled
  intro part member
  exact host_movement_small axis protocol part (small part member)

theorem host_movement_split (axis : Axis) (protocol : Protocol) (motion : Motion) :
    ((motion.split protocol).map fun part => Host.movement axis (part.encode protocol)).sum =
      axis.direction * Word.clamp (-1020) 1020 (motion.along axis) := by
  rw [host_movement_parts axis protocol _ (split_small axis protocol motion), split_carries]

theorem host_overflows_split (axis : Axis) (protocol : Protocol) (motion part : Motion)
    (member : part ∈ motion.split protocol) : Host.overflows axis (part.encode protocol) = false :=
  host_overflows_small axis protocol part (split_small axis protocol motion part member)

end Motion
end HidRelay.Pointer
