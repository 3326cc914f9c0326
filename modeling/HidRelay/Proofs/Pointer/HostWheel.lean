import HidRelay.Proofs.Pointer.Parts

/-!
How a host reads the wheel: the fourth byte, of which the protocol with side buttons gives the wheel
only the low half. Both ranges reach one step further down than up, and the wire has the opposite
sign, so the lowest wheel that a part can have arrives one step short; every other part is exact.
-/

set_option autoImplicit false

namespace HidRelay.Pointer

namespace Host

def turn : Protocol → Bytes → Int
  | .intelliMouse, [_, _, _, wheel] => Word.toSigned 8 wheel.toNat
  | .explorer, [_, _, _, wheel] => Word.toSigned 4 (wheel &&& 0x0F).toNat
  | _, _ => 0

end Host

theorem eight_bit_reading (value : Int) (above : -128 ≤ value) (below : value ≤ 127) :
    Word.toSigned 8 (UInt8.ofInt value).toNat = value := by
  have low : (UInt8.ofInt value).toNat = (value % 256).toNat :=
    UInt8.toNat_ofNat_of_lt' (by show (value % 256).toNat < 256; omega)
  have span : Word.span 8 = 256 := rfl
  rw [low, Word.toSigned, span]
  split <;> omega

theorem four_bit_reading (value : Int) (above : -8 ≤ value) (below : value ≤ 7) :
    Word.toSigned 4 (UInt8.ofInt value &&& 0x0F).toNat = value := by
  have low : (UInt8.ofInt value).toNat = (value % 256).toNat :=
    UInt8.toNat_ofNat_of_lt' (by show (value % 256).toNat < 256; omega)
  have half : (UInt8.ofInt value &&& 0x0F).toNat = (value % 256).toNat % 16 := by
    rw [UInt8.toNat_and, low]
    exact Nat.and_two_pow_sub_one_eq_mod _ 4
  have span : Word.span 4 = 16 := rfl
  rw [half, Word.toSigned, span]
  split <;> omega

theorem side_buttons_clear (buttons : UInt8) : ((buttons &&& (0x18 : UInt8)) <<< (1 : UInt8)) &&& 0x0F = 0 := by
  have every : ∀ bits : BitVec 8, ((bits &&& 0x18#8) <<< 1#8) &&& 0x0F#8 = 0#8 := by decide +kernel
  exact UInt8.toBitVec_inj.mp (every buttons.toBitVec)

theorem lower_half (turn buttons : UInt8) :
    ((turn &&& 0x0F) ||| ((buttons &&& (0x18 : UInt8)) <<< (1 : UInt8))) &&& 0x0F = turn &&& 0x0F := by
  rw [or_and, UInt8.and_assoc, UInt8.and_self, side_buttons_clear, UInt8.or_zero]

def Motion.announcedTurn (protocol : Protocol) (motion : Motion) : Int :=
  Word.clamp protocol.wheelMin protocol.wheelMax (Word.cappedNeg motion.wheel)

theorem host_turn_encode (protocol : Protocol) (motion : Motion) :
    Host.turn protocol (motion.encode protocol) = motion.announcedTurn protocol := by
  cases protocol with
  | standard =>
      obtain ⟨above, below⟩ := Word.clamp_bounds 0 0 (Word.cappedNeg motion.wheel) (by decide)
      exact Int.le_antisymm above below
  | intelliMouse =>
      obtain ⟨above, below⟩ := Word.clamp_bounds (-128) 127 (Word.cappedNeg motion.wheel) (by decide)
      exact eight_bit_reading _ above below
  | explorer =>
      obtain ⟨above, below⟩ := Word.clamp_bounds (-8) 7 (Word.cappedNeg motion.wheel) (by decide)
      have half := congrArg (fun half => Word.toSigned 4 half.toNat)
        (lower_half (UInt8.ofInt (motion.announcedTurn .explorer)) motion.buttons)
      exact half.trans (four_bit_reading _ above below)

theorem wheel_range (protocol : Protocol) (wheeled : protocol ≠ .standard) :
    protocol.wheelMin = -protocol.wheelMax - 1 ∧ 0 < protocol.wheelMax ∧ protocol.wheelMax ≤ 127 := by
  cases protocol with
  | standard => exact absurd rfl wheeled
  | intelliMouse => decide
  | explorer => decide

-- The lowest wheel of a part has no opposite in the range, and comes one step short.
theorem announced_turn_part (protocol : Protocol) (part : Motion) (wheeled : protocol ≠ .standard)
    (within : Count.wheel.Within protocol 1 part) :
    part.announcedTurn protocol = if part.wheel = protocol.wheelMin then protocol.wheelMax else -part.wheel := by
  obtain ⟨mirrored, _, small⟩ := wheel_range protocol wheeled
  have bounds : protocol.wheelMin * 1 ≤ part.wheel ∧ part.wheel ≤ protocol.wheelMax * 1 := within
  have opposite : Word.cappedNeg part.wheel = -part.wheel := in_range (-part.wheel) (by omega)
  rw [Motion.announcedTurn, opposite, Word.clamp]
  split <;> omega

namespace Motion

def lowest (protocol : Protocol) (parts : List Motion) : Nat := parts.countP fun part => part.wheel = protocol.wheelMin

def hostTurns (protocol : Protocol) (parts : List Motion) : Int :=
  (parts.map fun part => Host.turn protocol (part.encode protocol)).sum

theorem host_turn_part (protocol : Protocol) (motion part : Motion) (wheeled : protocol ≠ .standard)
    (member : part ∈ motion.split protocol) :
    Host.turn protocol (part.encode protocol) =
      if part.wheel = protocol.wheelMin then protocol.wheelMax else -part.wheel := by
  rw [host_turn_encode]
  exact announced_turn_part protocol part wheeled (Count.wheel.split_within protocol motion part member)

theorem host_turns_parts (protocol : Protocol) (parts : List Motion) (wheeled : protocol ≠ .standard)
    (each : ∀ part ∈ parts, Host.turn protocol (part.encode protocol) =
      if part.wheel = protocol.wheelMin then protocol.wheelMax else -part.wheel) :
    hostTurns protocol parts = -(parts.map Count.wheel.of).sum - lowest protocol parts := by
  have mirrored := (wheel_range protocol wheeled).1
  induction parts with
  | nil => rfl
  | cons part rest ih =>
      have own := each part List.mem_cons_self
      have others : hostTurns protocol rest = -(rest.map Count.wheel.of).sum - lowest protocol rest :=
        ih fun other member => each other (List.mem_cons_of_mem _ member)
      have split : hostTurns protocol (part :: rest) =
          Host.turn protocol (part.encode protocol) + hostTurns protocol rest := rfl
      have wheels : ((part :: rest).map Count.wheel.of).sum = part.wheel + (rest.map Count.wheel.of).sum := rfl
      by_cases least : part.wheel = protocol.wheelMin
      · have counted : lowest protocol (part :: rest) = lowest protocol rest + 1 :=
          List.countP_cons_of_pos (decide_eq_true least)
        rw [if_pos least] at own
        omega
      · have skipped : lowest protocol (part :: rest) = lowest protocol rest :=
          List.countP_cons_of_neg (by simpa using least)
        rw [if_neg least] at own
        omega

theorem parts_above_lowest (protocol : Protocol) (motion part : Motion) (parts : Nat)
    (wheeled : protocol ≠ .standard) (above : protocol.wheelMin < motion.wheel)
    (member : part ∈ partsOf protocol motion parts) : protocol.wheelMin < part.wheel := by
  obtain ⟨mirrored, positive, _⟩ := wheel_range protocol wheeled
  have first (motion : Motion) : (motion.limited protocol 1).wheel =
      Word.clamp (protocol.wheelMin * 1) (protocol.wheelMax * 1) motion.wheel := rfl
  have left (motion : Motion) : (motion.minus (motion.limited protocol 1)).wheel =
      motion.wheel - (motion.limited protocol 1).wheel := rfl
  refine every_part protocol (fun whole part => protocol.wheelMin < whole.wheel → protocol.wheelMin < part.wheel)
    (fun whole above => ?_) (fun whole part inner above => inner ?_) motion part parts member above
  · rw [first, Word.clamp]
    omega
  · rw [left, first, Word.clamp]
    omega

theorem split_above_lowest (protocol : Protocol) (motion : Motion) (wheeled : protocol ≠ .standard) :
    (∀ part ∈ motion.split protocol, protocol.wheelMin < part.wheel) ↔ protocol.wheelMin < motion.wheel := by
  obtain ⟨mirrored, positive, _⟩ := wheel_range protocol wheeled
  have limited : (motion.limited protocol maxParts).wheel =
      Word.clamp (protocol.wheelMin * 4) (protocol.wheelMax * 4) motion.wheel := rfl
  rw [Word.clamp] at limited
  constructor
  · intro above
    have first : ((motion.limited protocol maxParts).limited protocol 1).wheel =
        Word.clamp (protocol.wheelMin * 1) (protocol.wheelMax * 1) (motion.limited protocol maxParts).wheel := rfl
    rw [Word.clamp] at first
    have own := above ((motion.limited protocol maxParts).limited protocol 1) List.mem_cons_self
    omega
  · intro above part member
    exact parts_above_lowest protocol (motion.limited protocol maxParts) part maxParts wheeled (by omega) member

theorem split_wheel_on_wire (protocol : Protocol) (motion : Motion) (wheeled : protocol ≠ .standard) :
    let parts := motion.split protocol
    (∀ part ∈ parts, Host.turn protocol (part.encode protocol) =
      if part.wheel = protocol.wheelMin then protocol.wheelMax else -part.wheel) ∧
    ((∀ part ∈ parts, Host.turn protocol (part.encode protocol) = -part.wheel) ↔ protocol.wheelMin < motion.wheel) ∧
    (protocol.wheelMin * maxParts ≤ motion.wheel → motion.wheel ≤ protocol.wheelMax * maxParts →
      hostTurns protocol parts = -motion.wheel - lowest protocol parts ∧
      (hostTurns protocol parts = -motion.wheel ↔ protocol.wheelMin < motion.wheel)) := by
  intro parts
  have each := fun part member => host_turn_part protocol motion part wheeled member
  have above := split_above_lowest protocol motion wheeled
  have mirrored := (wheel_range protocol wheeled).1
  refine ⟨each, ?_, fun least most => ?_⟩
  · rw [← above]
    refine forall₂_congr fun part member => ?_
    have within : protocol.wheelMin * 1 ≤ part.wheel := (Count.wheel.split_within protocol motion part member).1
    rw [each part member]
    split <;> omega
  · have total : (parts.map Count.wheel.of).sum = motion.wheel :=
      (Count.wheel.split_sum protocol motion).trans (Word.clamp_of_within _ _ _ least most)
    have short := host_turns_parts protocol parts wheeled each
    rw [total] at short
    refine ⟨short, ?_⟩
    have none : lowest protocol parts = 0 ↔ protocol.wheelMin < motion.wheel := by
      rw [← above, lowest, List.countP_eq_zero]
      refine forall₂_congr fun part member => ?_
      have within : protocol.wheelMin * 1 ≤ part.wheel := (Count.wheel.split_within protocol motion part member).1
      rw [decide_eq_true_eq]
      omega
    rw [← none]
    omega

-- Twenty turns down take two parts at the lowest wheel, and arrive as eighteen turns up.
theorem twenty_turns_on_wire :
    let parts := (⟨0, 0, -20, 0⟩ : Motion).split .explorer
    Protocol.explorer ≠ .standard ∧ parts.map Motion.wheel = [-8, -8, -4] ∧
    hostTurns .explorer parts = 20 - 2 ∧
    (hostTurns .explorer parts = 20 ↔ -8 < (-20 : Int)) := by
  have wheeled : Protocol.explorer ≠ .standard := by decide
  obtain ⟨_, _, total⟩ := split_wheel_on_wire .explorer ⟨0, 0, -20, 0⟩ wheeled
  obtain ⟨short, exact⟩ := total (by decide) (by decide)
  exact ⟨wheeled, by decide, short, exact⟩

theorem lowest_turn_short_on_wire :
    ∃ part ∈ (⟨0, 0, -8, 0⟩ : Motion).split .explorer, Host.turn .explorer (part.encode .explorer) ≠ -part.wheel :=
  ⟨⟨0, 0, -8, 0⟩, by decide, by decide⟩

end Motion
end HidRelay.Pointer
