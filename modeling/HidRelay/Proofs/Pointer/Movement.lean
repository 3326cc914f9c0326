import HidRelay.Pointer.Pacer
import Mathlib.Algebra.BigOperators.Ring.List
import Mathlib.Algebra.GroupWithZero.Nat
import Mathlib.Algebra.Ring.Int.Defs

set_option autoImplicit false

namespace HidRelay.Pointer

inductive Axis where
  | x
  | y
deriving DecidableEq, Repr

instance (property : Axis → Prop) [DecidablePred property] : Decidable (∀ axis, property axis) :=
  decidable_of_iff (property .x ∧ property .y)
    ⟨fun both axis => match axis with | .x => both.1 | .y => both.2, fun all => ⟨all .x, all .y⟩⟩

def State.along (axis : Axis) (state : State) : Int :=
  match axis with
  | .x => state.x
  | .y => state.y

def Motion.along (axis : Axis) (motion : Motion) : Int :=
  match axis with
  | .x => motion.dx
  | .y => motion.dy

def moved (axis : Axis) (states : List State) : Int := (states.map (State.along axis)).sum

def carried (axis : Axis) (motions : List Motion) : Int := (motions.map (Motion.along axis)).sum

def reach (axis : Axis) (states : List State) : Nat := (states.map fun state => (state.along axis).natAbs).sum

def Moderate (count : Nat) (state : State) : Prop := ∀ axis, (state.along axis).natAbs * count ≤ 2147483647

instance (count : Nat) (state : State) : Decidable (Moderate count state) :=
  inferInstanceAs (Decidable (∀ axis, (state.along axis).natAbs * count ≤ 2147483647))

def merged (earlier : List State) (last : State) : Motion := earlier.foldl Pacer.merge (Motion.ofState last)

theorem sum_append {α : Type} (amount : α → Int) (before after : List α) :
    ((before ++ after).map amount).sum = (before.map amount).sum + (after.map amount).sum := by
  rw [List.map_append, List.sum_append_int]

theorem sum_flat_map {α β : Type} (amount : β → Int) (parts : α → List β) (items : List α) :
    ((items.flatMap parts).map amount).sum = (items.map fun item => ((parts item).map amount).sum).sum := by
  induction items with
  | nil => rfl
  | cons item rest ih => rw [List.flatMap_cons, sum_append, ih, List.map_cons, List.sum_cons]

theorem sum_scaled {α : Type} (factor : Int) (amount scaled : α → Int) (items : List α)
    (each : ∀ item ∈ items, scaled item = factor * amount item) :
    (items.map scaled).sum = factor * (items.map amount).sum := by
  rw [List.map_congr_left each, List.sum_map_mul_left]

@[simp]
theorem moved_nothing (axis : Axis) : moved axis [] = 0 := rfl

@[simp]
theorem carried_nothing (axis : Axis) : carried axis [] = 0 := rfl

theorem moved_append (axis : Axis) (before after : List State) :
    moved axis (before ++ after) = moved axis before + moved axis after := sum_append (State.along axis) before after

theorem carried_append (axis : Axis) (before after : List Motion) :
    carried axis (before ++ after) = carried axis before + carried axis after := sum_append (Motion.along axis) before after

theorem in_range (value : Int) (small : value.natAbs ≤ 2147483647) :
    Word.clamp Word.least Word.greatest value = value := by
  apply Word.clamp_of_within
  · rw [Word.least]
    omega
  · rw [Word.greatest]
    omega

theorem capped_add_exact (left right : Int) (room : left.natAbs + right.natAbs ≤ 2147483647) :
    Word.cappedAdd left right = left + right := in_range (left + right) (by omega)

theorem merge_along (axis : Axis) (motion : Motion) (state : State) :
    (Pacer.merge motion state).along axis = Word.cappedAdd (motion.along axis) (state.along axis) := by
  cases axis with
  | x => rfl
  | y => rfl

theorem of_state_along (axis : Axis) (state : State) : (Motion.ofState state).along axis = state.along axis := by
  cases axis with
  | x => rfl
  | y => rfl

theorem merge_all_exact (axis : Axis) (states : List State) (motion : Motion)
    (room : (motion.along axis).natAbs + reach axis states ≤ 2147483647) :
    (states.foldl Pacer.merge motion).along axis = motion.along axis + moved axis states := by
  induction states generalizing motion with
  | nil => exact (Int.add_zero _).symm
  | cons state rest ih =>
      have split : reach axis (state :: rest) = (state.along axis).natAbs + reach axis rest := rfl
      have exact : (Pacer.merge motion state).along axis = motion.along axis + state.along axis := by
        rw [merge_along]
        exact capped_add_exact _ _ (by omega)
      rw [List.foldl_cons, ih (Pacer.merge motion state) (by omega), exact, Int.add_assoc]
      rfl

theorem merged_exact (axis : Axis) (earlier : List State) (last : State)
    (room : reach axis (earlier ++ [last]) ≤ 2147483647) :
    (merged earlier last).along axis = moved axis (earlier ++ [last]) := by
  have split : reach axis (earlier ++ [last]) = reach axis earlier + (last.along axis).natAbs := by
    simp [reach]
  rw [merged, merge_all_exact axis earlier _ (by rw [of_state_along]; omega), of_state_along, moved_append]
  simp [moved, Int.add_comm]

theorem reach_of_moderate (axis : Axis) (count : Nat) (states : List State)
    (moderate : ∀ state ∈ states, Moderate count state) :
    reach axis states * count ≤ states.length * 2147483647 := by
  induction states with
  | nil => simp [reach]
  | cons state rest ih =>
      have own := moderate state List.mem_cons_self axis
      have others := ih fun other member => moderate other (List.mem_cons_of_mem _ member)
      have split : reach axis (state :: rest) = (state.along axis).natAbs + reach axis rest := rfl
      rw [split, Nat.add_mul, List.length_cons]
      omega

theorem reach_bounded (axis : Axis) (count : Nat) (states : List State) (few : states.length ≤ count)
    (moderate : ∀ state ∈ states, Moderate count state) : reach axis states ≤ 2147483647 := by
  cases count with
  | zero =>
      rw [List.eq_nil_of_length_eq_zero (Nat.le_zero.mp few)]
      exact Nat.zero_le _
  | succ count =>
      apply Nat.le_of_mul_le_mul_right _ (Nat.succ_pos count)
      calc reach axis states * (count + 1) ≤ states.length * 2147483647 := reach_of_moderate axis _ states moderate
        _ ≤ (count + 1) * 2147483647 := Nat.mul_le_mul_right _ few
        _ = 2147483647 * (count + 1) := Nat.mul_comm _ _

theorem merge_all_rest (states : List State) (motion : Motion) :
    (states.foldl Pacer.merge motion).wheel = motion.wheel ∧
      (states.foldl Pacer.merge motion).buttons = motion.buttons := by
  induction states generalizing motion with
  | nil => exact ⟨rfl, rfl⟩
  | cons state rest ih => exact ih (Pacer.merge motion state)

theorem merged_rest (earlier : List State) (last : State) :
    (merged earlier last).wheel = last.wheel ∧ (merged earlier last).buttons = last.buttons &&& 0x1F :=
  merge_all_rest earlier (Motion.ofState last)

end HidRelay.Pointer
