import HidRelay.Proofs.Pointer.Parts

/-!
How many parts a motion is split into. Any number of packets carry at most that number times the range
of one, and a split stops with the first part that leaves nothing.
-/

set_option autoImplicit false

namespace HidRelay.Pointer

def Follows (part whole : Int) : Prop := (0 ≤ whole → 0 ≤ part) ∧ (whole ≤ 0 → part ≤ 0)

theorem follows_trans (part middle whole : Int) (inner : Follows part middle) (outer : Follows middle whole) :
    Follows part whole :=
  ⟨fun up => inner.1 (outer.1 up), fun down => inner.2 (outer.2 down)⟩

namespace Count

theorem limited_follows (protocol : Protocol) (parts : Nat) (count : Count) (motion : Motion) :
    Follows (count.of (motion.limited protocol parts)) (count.of motion) := by
  obtain ⟨low, high⟩ := count.ranges_around_zero protocol parts
  rw [of_limited, Word.clamp, Follows]
  omega

theorem minus_follows (protocol : Protocol) (parts : Nat) (count : Count) (motion : Motion) :
    Follows (count.of (motion.minus (motion.limited protocol parts))) (count.of motion) := by
  obtain ⟨low, high⟩ := count.ranges_around_zero protocol parts
  rw [of_minus, of_limited, Word.clamp, Follows]
  omega

theorem parts_follow (protocol : Protocol) (count : Count) (motion part : Motion) (parts : Nat)
    (member : part ∈ motion.partsOf protocol parts) : Follows (count.of part) (count.of motion) :=
  Motion.every_part protocol (fun whole part => Follows (count.of part) (count.of whole)) (count.limited_follows protocol 1)
    (fun whole _ inner => follows_trans _ _ _ inner (count.minus_follows protocol 1 whole)) motion part parts member

theorem sum_within (protocol : Protocol) (count : Count) (parts : List Motion)
    (within : ∀ part ∈ parts, count.Within protocol 1 part) :
    count.low protocol * parts.length ≤ (parts.map count.of).sum ∧
      (parts.map count.of).sum ≤ count.high protocol * parts.length := by
  induction parts with
  | nil => simp
  | cons part rest ih =>
      have own : count.low protocol * 1 ≤ count.of part ∧ count.of part ≤ count.high protocol * 1 :=
        within part List.mem_cons_self
      have others := ih fun other member => within other (List.mem_cons_of_mem _ member)
      rw [List.map_cons, List.sum_cons, List.length_cons, Int.natCast_succ, Int.mul_add, Int.mul_add]
      omega

theorem within_more (protocol : Protocol) (count : Count) (motion : Motion) (fewer more : Nat) (grows : fewer ≤ more)
    (room : count.Within protocol fewer motion) : count.Within protocol more motion := by
  obtain ⟨low, high⟩ := count.range_around_zero protocol
  have wider : (fewer : Int) ≤ more := Int.ofNat_le.mpr grows
  exact ⟨Int.le_trans (Int.mul_le_mul_of_nonpos_left low wider) room.1,
    Int.le_trans room.2 (Int.mul_le_mul_of_nonneg_left wider high)⟩

end Count

namespace Motion

theorem still_of_counts (motion : Motion) (nothing : ∀ count : Count, count.of motion = 0) : motion.isStill = true :=
  decide_eq_true ⟨nothing (.movement .x), nothing (.movement .y), nothing .wheel⟩

theorem parts_length (protocol : Protocol) (motion : Motion) (parts : Nat) :
    (motion.partsOf protocol parts).length ≤ parts := by
  induction parts generalizing motion with
  | zero => exact Nat.le_refl 0
  | succ more ih =>
      rw [partsOf, List.length_cons]
      apply Nat.succ_le_succ
      split
      · exact Nat.zero_le more
      · exact ih _

theorem parts_buttons (protocol : Protocol) (motion part : Motion) (parts : Nat)
    (member : part ∈ motion.partsOf protocol parts) : part.buttons = motion.buttons :=
  every_part protocol (fun whole part => part.buttons = whole.buttons) (fun _ => rfl) (fun _ _ same => same)
    motion part parts member

-- The induction is on the cap; `enough` goes down with it, as each part takes one packet's worth off.
theorem parts_few (protocol : Protocol) (motion : Motion) (enough parts : Nat) (some : 1 ≤ enough)
    (room : ∀ count : Count, count.Within protocol enough motion) :
    (motion.partsOf protocol parts).length ≤ enough := by
  induction parts generalizing motion enough with
  | zero => exact Nat.zero_le _
  | succ more ih =>
      obtain ⟨fewer, rfl⟩ := Nat.exists_eq_add_of_le' some
      have left := fun count : Count => count.minus_within protocol fewer motion (room count)
      rw [partsOf, List.length_cons]
      apply Nat.succ_le_succ
      split
      case isTrue still => exact Nat.zero_le fewer
      case isFalse moving =>
        apply ih _ fewer _ left
        apply Nat.pos_of_ne_zero
        -- Room for no more packets leaves nothing to carry.
        rintro rfl
        refine moving (still_of_counts _ fun count => ?_)
        obtain ⟨above, below⟩ := left count
        rw [Int.natCast_zero, Int.mul_zero] at above below
        exact Int.le_antisymm below above

end Motion

-- The split is compared with every list of packets. Only the empty list can be shorter, for a motion that is still.
theorem split_fewest_parts (protocol : Protocol) (motion : Motion) :
    let parts := motion.split protocol
    1 ≤ parts.length ∧ parts.length ≤ maxParts ∧
    (∀ part ∈ parts, part.buttons = motion.buttons ∧ ∀ count : Count,
      count.Within protocol 1 part ∧ Follows (count.of part) (count.of motion)) ∧
    (∀ count : Count, (parts.map count.of).sum =
      Word.clamp (count.low protocol * maxParts) (count.high protocol * maxParts) (count.of motion)) ∧
    ∀ others : List Motion, (∀ other ∈ others, ∀ count : Count, count.Within protocol 1 other) →
      (∀ count : Count, (others.map count.of).sum = (parts.map count.of).sum) →
      parts.length ≤ max 1 others.length := by
  intro parts
  refine ⟨Nat.succ_le_succ (Nat.zero_le _), Motion.parts_length protocol _ maxParts, ?_,
    fun count => count.split_sum protocol motion, ?_⟩
  · intro part member
    refine ⟨Motion.parts_buttons protocol (motion.limited protocol maxParts) part maxParts member, fun count => ?_⟩
    refine ⟨count.split_within protocol motion part member, ?_⟩
    exact follows_trans _ _ _ (count.parts_follow protocol _ part maxParts member)
      (count.limited_follows protocol maxParts motion)
  · intro others within same
    apply Motion.parts_few protocol (motion.limited protocol maxParts) _ maxParts (Nat.le_max_left 1 others.length)
    intro count
    apply count.within_more protocol _ others.length _ (Nat.le_max_right 1 others.length)
    have carried := count.sum_within protocol others fun other member => within other member count
    rwa [same count, count.split_sum protocol motion, ← count.of_limited] at carried

end HidRelay.Pointer
