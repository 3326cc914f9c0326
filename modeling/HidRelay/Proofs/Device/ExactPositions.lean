import HidRelay.Proofs.Keyboard.Reckoned
import HidRelay.Proofs.Pointer.Reckoned

/-!
Reports below 2 ^ 29 bytes, decoded with positions that stop at the limit and with positions reckoned
exactly. No field, however long, brings one behind it back into the report.
-/

set_option autoImplicit false

namespace HidRelay.Report

theorem slot_read_exactly (report : Bytes) (short : report.length < 536870912) (placed : Placed) (index value : Nat)
    (positive : 0 < placed.field.width)
    (read : readUnsigned report (placed.stopped.slot index) placed.field.width = .ok value) :
    placed.slotBy .exact index + placed.field.width ≤ 8 * report.length ∧
      readUnsigned report (placed.slotBy .exact index) placed.field.width = .ok value := by
  rw [slot_stopped] at read
  have readable : Readable report (placed.slotBy .exact index) placed.field.width :=
    (readable_capped report _ _ (.inr short)).mp (readable_of_read report _ _ _ read)
  refine ⟨(readable.resolve_left (Nat.ne_of_gt positive)).2, ?_⟩
  rcases read_unsigned_stopped report short (placed.slotBy .exact index) placed.field.width with
    same | ⟨error, _, failed, _⟩
  · rw [← same, read]
  · rw [read] at failed
    cases failed

end HidRelay.Report

namespace HidRelay.Device

open Report (Layout Field Placed Decoded Reckoning placeBy readUnsigned)

structure Agree {α : Type} (one other : Decoded α) : Prop where
  state : one.state = other.state
  complete : one.error = none ↔ other.error = none

theorem decoding_reckoned_exactly (layout : Layout)
    (few : ∀ field ∈ layout.fields, UsagePage.ofCode field.page = .button → field.count < 2147483648)
    (report : Bytes) (short : report.length < 536870912) :
    Keyboard.decode report layout = Keyboard.decodeBy .word report layout ∧
    Pointer.decode report layout = Pointer.decodeBy .word report layout ∧
    Agree (Keyboard.decodeBy .word report layout) (Keyboard.decodeBy .exact report layout) ∧
    (∃ one other, Pointer.decodeBy .word report layout = .ok one ∧ Pointer.decodeBy .exact report layout = .ok other ∧
      Agree one other) ∧
    layout.placed = (placeBy .exact 0 layout.fields).map Placed.stopped ∧
    ∀ placed ∈ placeBy .exact 0 layout.fields, 0 < placed.field.width → ∀ index value,
      readUnsigned report (placed.stopped.slot index) placed.field.width = .ok value →
        placed.slotBy .exact index + placed.field.width ≤ 8 * report.length ∧
        readUnsigned report (placed.slotBy .exact index) placed.field.width = .ok value := by
  have keys := Keyboard.decode_by_word report layout
  have controls := Pointer.decode_by_word report layout
  have done := Pointer.few_counted layout (fun field member page _ => Nat.le_of_lt (few field member page)) report
  obtain ⟨held, heldWhole⟩ := Keyboard.decode_exactly report short layout
  obtain ⟨exact, doneExactly, moved, movedWhole⟩ := Pointer.decode_exactly report short layout
  rw [keys, controls]
  exact ⟨rfl, rfl, ⟨held, heldWhole⟩, ⟨_, exact, done, doneExactly, moved, movedWhole⟩, Report.layout_stopped layout,
    fun placed _ positive index value read => Report.slot_read_exactly report short placed index value positive read⟩

-- Fields behind 2 ^ 32 bits. Positions that started again would make them the first byte.
def farLayout : Layout := ⟨1, 6, .input, 0, [
  ⟨0xFF00, [], 65536, 65536, 0, 0⟩, ⟨7, [0xE0, 0xE1], 1, 2, 0, 1⟩, ⟨9, [1], 1, 3, 0, 1⟩, ⟨1, [0x30], 8, 1, -127, 127⟩]⟩

theorem far_fields_unread :
    let report : Bytes := [0xFF, 0xFF]
    report.length < 536870912 ∧
      (∀ field ∈ farLayout.fields, UsagePage.ofCode field.page = .button → field.count < 2147483648) ∧
      (Keyboard.decode report farLayout).state = Keyboard.Held.empty 7 ∧ (Keyboard.decode report farLayout).error ≠ none ∧
      ∃ decoded, Pointer.decode report farLayout = .ok decoded ∧ decoded.state = Pointer.State.rest ∧ decoded.error ≠ none := by
  intro report
  have short : report.length < 536870912 := by decide
  have few : ∀ field ∈ farLayout.fields, UsagePage.ofCode field.page = .button → field.count < 2147483648 := by decide
  obtain ⟨keys, controls, held, ⟨one, other, done, exactly, moved⟩, _⟩ := decoding_reckoned_exactly farLayout few report short
  have rest : Pointer.decodeBy .exact report farLayout = .ok ⟨.rest, some (.outOfBounds 4294967298 1 2)⟩ := by decide +kernel
  have same := Except.ok.inj (exactly.symm.trans rest)
  rw [keys, controls]
  exact ⟨short, few, held.state.trans (by decide +kernel), mt held.complete.mp (by decide +kernel), one, done,
    moved.state.trans (same ▸ rfl), mt moved.complete.mp (same ▸ Option.some_ne_none _)⟩

end HidRelay.Device
