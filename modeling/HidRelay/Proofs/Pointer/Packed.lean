import HidRelay.Proofs.Pointer.Sites

set_option autoImplicit false

namespace HidRelay.Pointer

open Report (Field Layout Readable readSigned bitAt extent)

namespace Control

def isAxis : Control → Bool
  | .button _ => false
  | _ => true

end Control

structure Regular (layout : Layout) : Prop where
  narrow : extent layout.fields < 2147483648
  axes : ∀ field ∈ layout.fields,
    UsagePage.ofCode field.page = .genericDesktop ∨ UsagePage.ofCode field.page = .consumer →
    1 ≤ field.width ∧ field.width ≤ 32 ∧ field.usages.length ≤ field.count

-- A button is a number of one bit. A control with several slots is packed in all of them.
structure Packs (layout : Layout) (chosen : State) (report : Bytes) : Prop where
  in_range : ∀ control start width, Located layout control start width → control.isAxis →
    -(Word.span width : Int) ≤ 2 * chosen.reading control ∧ 2 * chosen.reading control < Word.span width
  bits : ∀ control start width, Located layout control start width → ∀ index, index < width →
    start + index < 8 * report.length →
    bitAt report (start + index) = (BitVec.ofInt width (chosen.reading control)).getLsbD index

theorem located_fits (layout : Layout) (control : Control) (start width : Nat) (regular : Regular layout)
    (located : Located layout control start width) : 1 ≤ width ∧ width ≤ 32 ∧ start + width ≤ extent layout.fields := by
  obtain ⟨index, field, slot, here, declared, rfl, rfl⟩ := located
  have member := List.mem_of_getElem? here
  cases control with
  | button button =>
      obtain ⟨_, bitmap, inside, _⟩ := declared
      have single := bitmap_width field bitmap
      exact ⟨by omega, by omega, Report.slot_within layout.fields index slot field here inside⟩
  | _ =>
      obtain ⟨page, usage⟩ := declared
      obtain ⟨positive, narrow, covered⟩ := regular.axes field member (by simp [page])
      have inside : slot < field.count := Nat.lt_of_lt_of_le (List.getElem?_eq_some_iff.mp usage).1 covered
      exact ⟨positive, narrow, Report.slot_within layout.fields index slot field here inside⟩

theorem mem_sites_regular (layout : Layout) (site : Site) (regular : Regular layout) :
    site ∈ sites layout ↔ Located layout site.control site.start site.width := by
  have exact (start : Nat) (located : Located layout site.control start site.width) : Report.capped start = start := by
    have fits := (located_fits layout _ _ _ regular located).2.2
    have narrow := regular.narrow
    exact Report.capped_of_le start (by omega)
  rw [mem_sites]
  constructor
  · rintro ⟨start, located, same⟩
    rw [same, exact start located]
    exact located
  · intro located
    exact ⟨site.start, located, (exact site.start located).symm⟩

theorem located_readable (layout : Layout) (control : Control) (start width : Nat) (report : Bytes)
    (regular : Regular layout) (located : Located layout control start width) :
    Readable report start width ↔ start + width ≤ 8 * report.length := by
  obtain ⟨positive, narrow, _⟩ := located_fits layout control start width regular located
  simp only [Readable]
  omega

-- One bit of two's complement holds 0 or -1, and 1 looks like -1.
theorem packed_read (layout : Layout) (chosen : State) (report : Bytes) (control : Control) (start width : Nat)
    (regular : Regular layout) (packs : Packs layout chosen report) (located : Located layout control start width)
    (inside : start + width ≤ 8 * report.length) :
    ∃ value, readSigned report start width = .ok value ∧ control.settled value = chosen.reading control := by
  have positive := (located_fits layout control start width regular located).1
  have readable := (located_readable layout control start width report regular located).mpr inside
  have bits (index : Nat) (within : index < width) := packs.bits control start width located index within (by omega)
  cases control with
  | button button =>
      obtain ⟨_, field, _, _, declared, _, own⟩ := located
      have single : width = 1 := own.trans (bitmap_width field declared.2.1)
      subst single
      cases pressed : chosen.isPressed button with
      | false =>
          simp only [State.reading, pressed] at bits ⊢
          exact ⟨0, Report.read_signed_packed report start 1 0 positive (by decide) (by decide) readable bits, rfl⟩
      | true =>
          simp only [State.reading, pressed] at bits ⊢
          exact ⟨-1, Report.read_signed_packed report start 1 (-1) positive (by decide) (by decide) readable bits, rfl⟩
  | _ =>
      obtain ⟨low, high⟩ := packs.in_range _ start width located rfl
      exact ⟨_, Report.read_signed_packed report start width _ positive low high readable bits, rfl⟩

theorem packs_of_sites (layout : Layout) (chosen : State) (report : Bytes) (regular : Regular layout)
    (range : ∀ site ∈ sites layout, site.control.isAxis →
      -(Word.span site.width : Int) ≤ 2 * chosen.reading site.control ∧
        2 * chosen.reading site.control < Word.span site.width)
    (bits : ∀ site ∈ sites layout, ∀ index, index < site.width → site.start + index < 8 * report.length →
      bitAt report (site.start + index) = (BitVec.ofInt site.width (chosen.reading site.control)).getLsbD index) :
    Packs layout chosen report where
  in_range control start width located := range ⟨control, start, width⟩ ((mem_sites_regular layout _ regular).mpr located)
  bits control start width located := bits ⟨control, start, width⟩ ((mem_sites_regular layout _ regular).mpr located)

theorem decode_packed (layout : Layout) (chosen : State) (report : Bytes) (regular : Regular layout)
    (packs : Packs layout chosen report) :
    ∃ decoded, decode report layout = .ok decoded ∧
      (∀ control,
        ((∃ start width, Located layout control start width ∧ start + width ≤ 8 * report.length) →
          decoded.state.reading control = chosen.reading control) ∧
        ((∀ start width, Located layout control start width → 8 * report.length < start + width) →
          decoded.state.reading control = 0)) ∧
      (decoded.error ≠ none ↔
        ∃ control start width, Located layout control start width ∧ 8 * report.length < start + width) := by
  have located (site : Site) (member : site ∈ sites layout) := (mem_sites_regular layout site regular).mp member
  have inside (site : Site) (member : site ∈ sites layout) :=
    located_readable layout site.control site.start site.width report regular (located site member)
  refine ⟨readings report layout, narrow_counted layout regular.narrow report, fun control => ⟨?_, ?_⟩, ?_⟩
  · intro ⟨start, width, own, within⟩
    rw [readings_state]
    refine fold_settled report (sites layout) .rest control _ ?_ (.inr ⟨⟨control, start, width⟩, ?_, rfl, ?_⟩)
    · intro site member same readable
      have packed := packed_read layout chosen report _ _ _ regular packs (located site member) ((inside site member).mp readable)
      rwa [same] at packed
    · exact (mem_sites_regular layout ⟨control, start, width⟩ regular).mpr own
    · exact (located_readable layout control start width report regular own).mpr within
  · intro outside
    rw [readings_state, fold_untouched report (sites layout) .rest control]
    · exact State.reading_rest control
    · intro site member same readable
      have beyond := outside site.start site.width (same ▸ located site member)
      have within := (inside site member).mp readable
      omega
  · rw [ne_eq, readings_complete]
    constructor
    · intro incomplete
      obtain ⟨site, unread⟩ := Classical.not_forall.mp incomplete
      obtain ⟨member, unreadable⟩ := Classical.not_imp.mp unread
      exact ⟨site.control, site.start, site.width, located site member, Nat.not_le.mp (mt (inside site member).mpr unreadable)⟩
    · intro ⟨control, start, width, own, beyond⟩ complete
      have readable := complete ⟨control, start, width⟩ ((mem_sites_regular layout ⟨control, start, width⟩ regular).mpr own)
      have within := (located_readable layout control start width report regular own).mp readable
      omega

def tiltLayout : Layout := ⟨1, 2, .input, 0, [
  ⟨9, [1, 2, 3], 1, 3, 0, 1⟩, ⟨9, [], 5, 1, 0, 0⟩, ⟨1, [0x30, 0x31], 12, 2, -2047, 2047⟩,
  ⟨1, [0x38], 8, 1, -127, 127⟩, ⟨12, [0x238], 8, 1, -127, 127⟩]⟩

theorem short_tilt_report_unpacked :
    let chosen : State := ⟨-1, 5, -3, 7, 5⟩
    let report : Bytes := [0x05, 0xFF, 0x5F, 0x00, 0xFD]
    Regular tiltLayout ∧ Packs tiltLayout chosen report ∧ ∃ decoded, decode report tiltLayout = .ok decoded ∧
      decoded.state.x = -1 ∧ decoded.state.y = 5 ∧ decoded.state.reading (.button 2) = 1 ∧ decoded.state.pan = 0 ∧
      decoded.error ≠ none := by
  intro chosen report
  have regular : Regular tiltLayout := ⟨by decide, by decide⟩
  have packs : Packs tiltLayout chosen report :=
    packs_of_sites tiltLayout chosen report regular (by decide +kernel) (by decide +kernel)
  have located (site : Site) := (mem_sites_regular tiltLayout site regular).mp
  obtain ⟨decoded, done, shown, incomplete⟩ := decode_packed tiltLayout chosen report regular packs
  refine ⟨regular, packs, decoded, done, ?_, ?_, ?_, ?_, incomplete.mpr ⟨.pan, 40, 8, located ⟨.pan, 40, 8⟩ (by decide), by decide⟩⟩
  · exact (shown .x).1 ⟨8, 12, located ⟨.x, 8, 12⟩ (by decide), by decide⟩
  · exact (shown .y).1 ⟨20, 12, located ⟨.y, 20, 12⟩ (by decide), by decide⟩
  · exact ((shown (.button 2)).1 ⟨2, 1, located ⟨.button 2, 2, 1⟩ (by decide), by decide⟩).trans (by decide)
  · refine (shown .pan).2 fun start width own => ?_
    have only : ∀ site ∈ sites tiltLayout, site.control = .pan → 40 < site.start + site.width := by decide
    exact only ⟨.pan, start, width⟩ ((mem_sites_regular tiltLayout _ regular).mpr own) rfl

end HidRelay.Pointer
