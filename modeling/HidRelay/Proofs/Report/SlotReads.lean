import HidRelay.Report.Slots
import HidRelay.Proofs.Report.Positions
import HidRelay.Proofs.Report.WholeNumber

set_option autoImplicit false

namespace HidRelay.Report

theorem numbered_ascending {α : Type} (values : List α) :
    values.zipIdx.Pairwise fun earlier later => earlier.2 < later.2 := by
  rw [List.pairwise_iff_getElem]
  intro earlier later _ _ order
  simpa using order

theorem readable_earlier (report : Bytes) (start later width : Nat) (order : start ≤ later)
    (readable : Readable report later width) : Readable report start width :=
  readable.imp_right fun inside => ⟨inside.1, Nat.le_trans (Nat.add_le_add_right order width) inside.2⟩

theorem readable_capped (report : Bytes) (start width : Nat)
    (near : start ≤ positionLimit ∨ report.length < 536870912) :
    Readable report (capped start) width ↔ Readable report start width := by
  simp only [Readable, capped, positionLimit] at near ⊢
  omega

theorem slot_ascending (placed : Placed) (earlier later : Nat) (order : earlier ≤ later) :
    placed.slot earlier ≤ placed.slot later := by
  have scaled := Nat.mul_le_mul_right placed.field.width order
  simp only [Placed.slot, capped]
  omega

theorem slot_exact (start index : Nat) (field : Field) :
    (Placed.mk (capped start) field).slot index = capped (start + index * field.width) := by
  rw [Placed.slot, add_capped, capped_add]

theorem slot_ends (field : Field) (slot : Nat) (inside : slot < field.count) :
    slot * field.width + field.width ≤ field.width * field.count :=
  calc slot * field.width + field.width = (slot + 1) * field.width := (Nat.succ_mul _ _).symm
    _ ≤ field.count * field.width := Nat.mul_le_mul_right _ inside
    _ = field.width * field.count := Nat.mul_comm _ _

theorem slot_within (fields : List Field) (index slot : Nat) (field : Field) (here : fields[index]? = some field)
    (inside : slot < field.count) : extent (fields.take index) + slot * field.width + field.width ≤ extent fields := by
  have ends := slot_ends field slot inside
  rw [extent_split fields index field here]
  omega

theorem read_unsigned_number (report : Bytes) (offset width : Nat) (positive : 0 < width)
    (readable : Readable report offset width) : readUnsigned report offset width = .ok (number report offset width) := by
  rw [read_unsigned_eq]
  rcases readable with none | ⟨narrow, inside⟩
  · omega
  · rw [if_neg (Nat.ne_of_gt positive), if_neg (Nat.not_lt.mpr narrow), if_neg (Nat.not_lt.mpr inside)]

theorem read_slot (report : Bytes) (start index : Nat) (field : Field) (positive : 0 < field.width)
    (near : start + index * field.width ≤ positionLimit ∨ report.length < 536870912)
    (readable : Readable report (start + index * field.width) field.width) :
    readUnsigned report ((Placed.mk (capped start) field).slot index) field.width =
      .ok (number report (start + index * field.width) field.width) := by
  have low : start + index * field.width ≤ positionLimit := by
    simp only [Readable, positionLimit] at readable near ⊢
    omega
  rw [slot_exact, capped_of_le _ low]
  exact read_unsigned_number report _ _ positive readable

namespace Placed

variable {α : Type}

theorem read_slots_labelled (report : Bytes) (start : Nat) (field : Field) (labels : List α) (first : Nat)
    (positive : 0 < field.width) (narrow : field.width ≤ 32)
    (near : start + (first + labels.length) * field.width ≤ positionLimit ∨ report.length < 536870912) :
    labels.zip ((Placed.mk (capped start) field).readSlots report first labels.length).1 =
      ((labels.zipIdx first).filter fun entry => start + entry.2 * field.width + field.width ≤ 8 * report.length).map
        fun entry => (entry.1, number report (start + entry.2 * field.width) field.width) := by
  induction labels generalizing first with
  | nil => rfl
  | cons label rest ih =>
      have same : first + (label :: rest).length = first + 1 + rest.length := by
        rw [List.length_cons]
        omega
      have before : start + first * field.width ≤ start + (first + (label :: rest).length) * field.width :=
        Nat.add_le_add_left (Nat.mul_le_mul_right _ (Nat.le_add_right _ _)) _
      have nearFirst : start + first * field.width ≤ positionLimit ∨ report.length < 536870912 :=
        near.imp_left (Nat.le_trans before)
      have later := ih (first + 1) (same ▸ near)
      rw [List.length_cons, readSlots, List.zipIdx_cons]
      by_cases inside : start + first * field.width + field.width ≤ 8 * report.length
      · rw [read_slot report start first field positive nearFirst (.inr ⟨narrow, inside⟩),
          List.filter_cons_of_pos (by simpa using inside)]
        exact congrArg (List.cons _) later
      · have unreadable : ¬ Readable report ((Placed.mk (capped start) field).slot first) field.width := by
          rw [slot_exact, readable_capped _ _ _ nearFirst, Readable]
          omega
        obtain ⟨error, failed⟩ := read_unsigned_unreadable report _ _ unreadable
        -- The slots behind this one begin no earlier, so none of them passes the filter.
        have outside : ∀ entry ∈ (label, first) :: rest.zipIdx (first + 1),
            ¬ start + entry.2 * field.width + field.width ≤ 8 * report.length := by
          intro entry member within
          rw [← List.zipIdx_cons] at member
          have order := Nat.mul_le_mul_right field.width (List.le_snd_of_mem_zipIdx member)
          omega
        rw [failed, List.filter_eq_nil_iff.mpr fun entry member => by simpa using outside entry member]
        rfl

theorem read_slots_inside (report : Bytes) (start : Nat) (field : Field) (labels : List α) (first : Nat)
    (positive : 0 < field.width) (narrow : field.width ≤ 32)
    (near : start + (first + labels.length) * field.width ≤ positionLimit ∨ report.length < 536870912) :
    ((Placed.mk (capped start) field).readSlots report first labels.length).2 = none ↔
      ∀ entry ∈ labels.zipIdx first, start + entry.2 * field.width + field.width ≤ 8 * report.length := by
  have few := read_slots_length report (Placed.mk (capped start) field) first labels.length
  have counted := congrArg List.length (read_slots_labelled report start field labels first positive narrow near)
  rw [List.length_zip, List.length_map, Nat.min_eq_right few] at counted
  rw [read_slots_complete, counted]
  have all := List.length_filter_eq_length_iff (l := labels.zipIdx first)
    (p := fun entry => decide (start + entry.2 * field.width + field.width ≤ 8 * report.length))
  rw [List.length_zipIdx] at all
  simpa using all

end Placed
end HidRelay.Report
