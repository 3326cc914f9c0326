import HidRelay.Proofs.Descriptor.FieldWords
import HidRelay.Proofs.Pointer.Reckoned

/-!
The numbers that the bits of a button field are given. A field may be declared so long that they reach
2 ^ 32, and there decoding ends without an answer, unless the report ends before the last of the eight
buttons. Where decoding answers, every bit has the number it should have.
-/

set_option autoImplicit false

namespace HidRelay.Pointer

open Report (Field Layout Placed Decoded ReadError Reckoning Readable readSigned)

section

variable (reckoning : Reckoning) (report : Bytes) (placed : Placed) (first bit remaining : Nat)

theorem visit_numbered (index : Nat) (visit : Visit)
    (here : (visits reckoning report placed first bit remaining)[index]? = some visit) :
    visit.number = first + (bit + index) ∧ (visit.turn = .overflowed ↔ reckoning.overflows visit.number = true) ∧
      (visit.turn ≠ .overflowed → visit.turn.button? = buttonOf visit.number) := by
  induction remaining generalizing bit index with
  | zero => cases here
  | succ remaining ih =>
      cases index with
      | zero =>
          rcases visits_succ reckoning report placed first bit remaining with
            ⟨overflows, all⟩ | ⟨within, ⟨number, all⟩ | ⟨_, _, number, _, all⟩ | ⟨_, _, number, _, all⟩⟩
          · rw [all] at here
            cases here
            exact ⟨rfl, iff_of_true rfl overflows, fun other => absurd rfl other⟩
          all_goals
            rw [all] at here
            cases here
            exact ⟨rfl, by simp [within], fun _ => number.symm⟩
      | succ index =>
          have next : bit + (index + 1) = bit + 1 + index := by omega
          rw [next]
          refine ih (bit + 1) index ?_
          rcases visits_succ reckoning report placed first bit remaining with
            ⟨_, all⟩ | ⟨_, ⟨_, all⟩ | ⟨_, _, _, _, all⟩ | ⟨_, _, _, _, all⟩⟩
          all_goals
            rw [all] at here
            first
              | exact here
              | cases here

theorem gathered_error_iff : gathered (visits reckoning report placed first bit remaining) = .error ⟨⟩ ↔
    ∃ visit ∈ visits reckoning report placed first bit remaining, reckoning.overflows visit.number = true := by
  have overflowed (visit : Visit) (member : visit ∈ visits reckoning report placed first bit remaining) :
      visit.turn = .overflowed ↔ reckoning.overflows visit.number = true := by
    obtain ⟨index, here⟩ := List.mem_iff_getElem?.mp member
    exact (visit_numbered reckoning report placed first bit remaining index visit here).2.1
  have some : gathered (visits reckoning report placed first bit remaining) = .error ⟨⟩ ↔
      ∃ visit ∈ visits reckoning report placed first bit remaining, visit.turn = .overflowed := by
    simp [gathered]
  rw [some]
  exact exists_congr fun visit => and_congr_right (overflowed visit)

end

def NumbersRunOut (report : Bytes) (placed : Placed) : Prop :=
  UsagePage.ofCode placed.field.page = .button ∧ placed.field.isBitmap ∧ ∃ first ∈ placed.field.usages.head?,
    4294967296 < first.toNat + placed.field.count ∧
    ∀ slot, slot < placed.field.count → 1 ≤ first.toNat + slot → first.toNat + slot ≤ 8 →
      Readable report (placed.slot slot) placed.field.width

theorem overflows_iff (report : Bytes) (placed : Placed) : Overflows report placed ↔ NumbersRunOut report placed := by
  unfold Overflows NumbersRunOut
  rw [outnumbered_iff, read_controls_complete]
  constructor
  · rintro ⟨⟨page, bitmap, first, head, many⟩, whole⟩
    refine ⟨page, bitmap, first, head, many, fun slot inside low high => ?_⟩
    have declared : Declares placed.field (.button ⟨first.toNat + slot - 1, by omega⟩) slot :=
      ⟨page, bitmap, inside, first, head, (Nat.sub_add_cancel low).symm⟩
    exact whole (_, slot) ((mem_field_slots _ _ _).mpr declared)
  · rintro ⟨page, bitmap, first, head, many, whole⟩
    refine ⟨⟨page, bitmap, first, head, many⟩, fun entry member => ?_⟩
    have declared := (mem_field_slots placed.field entry.1 entry.2).mp member
    cases control : entry.1 with
    | button index =>
        rw [control] at declared
        obtain ⟨_, _, inside, other, same, number⟩ := declared
        cases Option.some.inj (head.symm.trans same)
        have bound := index.isLt
        exact whole entry.2 inside (by omega) (by omega)
    | _ =>
        rw [control] at declared
        cases page.symm.trans declared.1

theorem visited_field (report : Bytes) (placed : Placed) (first : UInt16) (page : UsagePage.ofCode placed.field.page = .button)
    (bitmap : placed.field.isBitmap) (head : first ∈ placed.field.usages.head?) :
    gathered (visits .word report placed first.toNat 0 placed.field.count) = readField report placed := by
  obtain ⟨rest, usages⟩ := List.head?_eq_some_iff.mp head
  rw [← read_field_by_word, readFieldBy, page, usages]
  exact (if_pos bitmap).symm

theorem bits_numbered (report : Bytes) (placed : Placed) (first : UInt16) (page : UsagePage.ofCode placed.field.page = .button)
    (bitmap : placed.field.isBitmap) (head : first ∈ placed.field.usages.head?) (within : ¬ Overflows report placed)
    (slot : Nat) (visit : Visit)
    (here : (visits .word report placed first.toNat 0 placed.field.count)[slot]? = some visit) :
    visit.number = first.toNat + slot ∧ visit.number < 4294967296 ∧
      ∀ index, visit.turn.button? = some index ↔ first.toNat + slot = index.val + 1 := by
  obtain ⟨number, overflowed, button⟩ := visit_numbered .word report placed first.toNat 0 placed.field.count slot visit here
  rw [Nat.zero_add] at number
  have small : Reckoning.word.overflows visit.number ≠ true := by
    intro overflows
    have failed := (gathered_error_iff .word report placed first.toNat 0 placed.field.count).mpr
      ⟨visit, List.mem_of_getElem? here, overflows⟩
    rw [visited_field report placed first page bitmap head] at failed
    cases (if_neg within).symm.trans failed
  refine ⟨number, by simpa [Reckoning.word] using small, fun index => ?_⟩
  rw [button (mt overflowed.mp small), number, button_of_iff]

theorem button_numbers_checked (layout : Layout) (report : Bytes) :
    decode report layout = decodeBy .word report layout ∧
    (decode report layout = .error ⟨⟩ ↔ ∃ placed ∈ layout.placed, NumbersRunOut report placed) ∧
    ∀ decoded, decode report layout = .ok decoded →
      (∀ placed ∈ layout.placed, UsagePage.ofCode placed.field.page = .button → placed.field.isBitmap →
        ∀ first ∈ placed.field.usages.head?, ∀ slot visit,
          (visits .word report placed first.toNat 0 placed.field.count)[slot]? = some visit →
          visit.number = first.toNat + slot ∧ visit.number < 4294967296 ∧
          ∀ index, visit.turn.button? = some index ↔ first.toNat + slot = index.val + 1) ∧
      (report.length < 536870912 → ∃ exact, decodeBy .exact report layout = .ok exact ∧
        decoded.state = exact.state ∧ (decoded.error = none ↔ exact.error = none)) := by
  refine ⟨(decode_by_word report layout).symm, ?_, fun decoded done => ⟨?_, fun short => ?_⟩⟩
  · rw [decode_error_iff]
    exact exists_congr fun placed => and_congr_right fun _ => overflows_iff report placed
  · intro placed member page bitmap first head slot visit here
    refine bits_numbered report placed first page bitmap head (fun overflows => ?_) slot visit here
    cases done.symm.trans (decode_overflow report layout placed member overflows)
  · rw [decode_ok report layout decoded done]
    exact decode_exactly report short layout

def longDescriptor (first : UInt8) : Bytes := [
  0x05, 0x01, 0x09, 0x02, 0xA1, 0x01,               -- Application (Mouse)
  0x05, 0x09, 0x09, first,                          --   Usage (Button first)
  0x75, 0x01, 0x97, 0xFF, 0xFF, 0xFF, 0xFF,         --   4294967295 bits
  0x81, 0x02,
  0xC0]

def longLayout (first : UInt16) : Layout := ⟨1, 2, .input, 0, [⟨9, [first], 1, 4294967295, 0, 0⟩]⟩

theorem long_layout_found (first : UInt8) (number : UInt16)
    (reading : ((Descriptor.read (longDescriptor first)).toOption.bind fun catalog => catalog.layout? .input 0) =
      some (longLayout number)) :
    ∃ catalog, Descriptor.read (longDescriptor first) = .ok catalog ∧ catalog.layout? .input 0 = some (longLayout number) := by
  cases read : Descriptor.read (longDescriptor first) with
  | error fault =>
      rw [read] at reading
      cases reading
  | ok catalog =>
      rw [read] at reading
      exact ⟨catalog, rfl, reading⟩

-- From button one on, the last number is the one before 2 ^ 32.
theorem longest_field_numbered :
    (∃ catalog, Descriptor.read (longDescriptor 1) = .ok catalog ∧ catalog.layout? .input 0 = some (longLayout 1)) ∧
      decode [0x05] (longLayout 1) = .ok ⟨⟨0, 0, 0, 0, 5⟩, none⟩ ∧
      (∀ visit ∈ visits .word [0x05] ⟨0, ⟨9, [1], 1, 4294967295, 0, 0⟩⟩ 1 0 4294967295, visit.number < 4294967296) ∧
      ∃ exact, decodeBy .exact [0x05] (longLayout 1) = .ok exact ∧ exact.state = ⟨0, 0, 0, 0, 5⟩ ∧ exact.error = none := by
  obtain ⟨_, _, answered⟩ := button_numbers_checked (longLayout 1) [0x05]
  have done : decode [0x05] (longLayout 1) = .ok ⟨⟨0, 0, 0, 0, 5⟩, none⟩ := by decide +kernel
  obtain ⟨numbers, exactly⟩ := answered _ done
  obtain ⟨exact, doneExactly, state, whole⟩ := exactly (by decide)
  refine ⟨long_layout_found 1 1 (by decide +kernel), done, fun visit member => ?_, exact, doneExactly, state.symm, whole.mp rfl⟩
  obtain ⟨slot, here⟩ := List.mem_iff_getElem?.mp member
  exact (numbers ⟨0, ⟨9, [1], 1, 4294967295, 0, 0⟩⟩ (by decide) (by decide) (by decide) 1 rfl slot visit here).2.1

-- From button nine on, no bit is one of the eight buttons, and the numbers run out all the same.
theorem longest_field_overruns :
    (∃ catalog, Descriptor.read (longDescriptor 9) = .ok catalog ∧ catalog.layout? .input 0 = some (longLayout 9)) ∧
    (∃ placed ∈ (longLayout 9).placed, placed.field.usages = [9] ∧
      ∃ visit ∈ visits .word [0] placed 9 0 placed.field.count, 4294967296 ≤ visit.number) ∧
    (∀ slot, slot < 4294967295 → buttonOf (9 + slot) = none) ∧
    decode [0] (longLayout 9) = .error ⟨⟩ := by
  refine ⟨long_layout_found 9 9 (by decide +kernel), ⟨⟨0, ⟨9, [9], 1, 4294967295, 0, 0⟩⟩, by decide, rfl, ?_⟩,
    fun slot _ => (button_of_none _).mpr (by omega), by decide +kernel⟩
  have failed : gathered (visits .word [0] ⟨0, ⟨9, [9], 1, 4294967295, 0, 0⟩⟩ 9 0 4294967295) = .error ⟨⟩ :=
    (bits_by_word [0] _ 9 4294967295 (by decide)).trans (by decide +kernel)
  obtain ⟨visit, member, overflows⟩ := (gathered_error_iff .word [0] _ 9 0 4294967295).mp failed
  exact ⟨visit, member, by simpa [Reckoning.word] using overflows⟩

end HidRelay.Pointer
