import HidRelay.Descriptor.Reader
import HidRelay.Proofs.Pointer.Sites

/-!
Which bits of a report a pointer state depends on. Buttons depend on the bits of button fields alone.
An axis depends on the bits of its own page's fields as long as no field declares it behind its last
slot; a field that does is read past its end, into the next field or past the end of the report.
-/

set_option autoImplicit false

namespace HidRelay.Pointer

open Report (Field Layout Readable readSigned bitAt extent capped)

def Contained (layout : Layout) (page : UsagePage) : Prop :=
  ∀ field ∈ layout.fields, UsagePage.ofCode field.page = page → ∀ control slot, Declares field control slot →
    field.width = 0 ∨ slot < field.count

def AgreeOn (page : UsagePage) (layout : Layout) (left right : Bytes) : Prop :=
  ∀ index (inside : index < layout.fields.length), UsagePage.ofCode layout.fields[index].page = page →
    ∀ bit, bit < layout.fields[index].width * layout.fields[index].count →
      bitAt left (extent (layout.fields.take index) + bit) = bitAt right (extent (layout.fields.take index) + bit)

instance (page : UsagePage) (layout : Layout) (left right : Bytes) : Decidable (AgreeOn page layout left right) := by
  unfold AgreeOn
  infer_instance

theorem buttons_contained (layout : Layout) : Contained layout .button := by
  intro field _ page control slot declared
  cases control with
  | button index => exact .inr declared.2.2.1
  | _ =>
      have other := declares_page field _ slot declared
      rw [page] at other
      exact nomatch other

theorem contained_of_usages (layout : Layout) (page : UsagePage)
    (covered : ∀ field ∈ layout.fields, UsagePage.ofCode field.page = page → field.usages.length ≤ field.count) :
    Contained layout page := by
  intro field member own control slot declared
  refine .inr ?_
  cases control with
  | button index => exact declared.2.2.1
  | _ => exact Nat.lt_of_lt_of_le (List.getElem?_eq_some_iff.mp declared.2).1 (covered field member own)

theorem whole_fits (layout : Layout) (narrow : extent layout.fields < 2147483648) (report : Bytes)
    (long : layout.byteLength ≤ report.length) : extent layout.fields ≤ 8 * report.length := by
  have exact := layout.bit_length_exact
  rw [Report.capped_of_le _ (by omega)] at exact
  simp only [Layout.byteLength] at long
  omega

theorem contained_fits (layout : Layout) (control : Control) (start width : Nat)
    (contained : Contained layout control.page) (located : Located layout control start width) :
    width = 0 ∨ start + width ≤ extent layout.fields := by
  obtain ⟨index, field, slot, here, declared, rfl, rfl⟩ := located
  have page := declares_page field control slot declared
  refine (contained field (List.mem_of_getElem? here) page control slot declared).imp_right fun inside => ?_
  exact Report.slot_within layout.fields index slot field here inside

theorem agree_located (layout : Layout) (control : Control) (start width : Nat) (left right : Bytes)
    (contained : Contained layout control.page) (agree : AgreeOn control.page layout left right)
    (located : Located layout control start width) (index : Nat) (inside : index < width) :
    bitAt left (start + index) = bitAt right (start + index) := by
  obtain ⟨place, field, slot, here, declared, rfl, rfl⟩ := located
  have page := declares_page field control slot declared
  have within : slot < field.count :=
    (contained field (List.mem_of_getElem? here) page control slot declared).resolve_left (by omega)
  have ends := Report.slot_ends field slot within
  obtain ⟨placed, rfl⟩ := List.getElem?_eq_some_iff.mp here
  rw [Nat.add_assoc]
  exact agree place placed page _ (by omega)

section

variable (layout : Layout) (narrow : extent layout.fields < 2147483648)
  (slim : ∀ field ∈ layout.fields, field.width ≤ 32)

include narrow slim

theorem contained_readable (site : Site) (member : site ∈ sites layout) (contained : Contained layout site.control.page)
    (report : Bytes) (long : layout.byteLength ≤ report.length) : Readable report site.start site.width := by
  obtain ⟨start, located, same⟩ := (mem_sites layout site).mp member
  obtain ⟨_, field, _, here, _, _, own⟩ := id located
  rcases contained_fits layout site.control start site.width contained located with none | inside
  · exact .inl none
  · have whole := whole_fits layout narrow report long
    have fits := slim field (List.mem_of_getElem? here)
    refine .inr ⟨by omega, ?_⟩
    rw [same, Report.capped_of_le start (by omega)]
    omega

theorem reading_agrees (left right : Bytes) (leftLong : layout.byteLength ≤ left.length)
    (rightLong : layout.byteLength ≤ right.length) (control : Control) (contained : Contained layout control.page)
    (agree : AgreeOn control.page layout left right) :
    (readings left layout).state.reading control = (readings right layout).state.reading control := by
  rw [readings_state, readings_state]
  refine fold_agree left right (sites layout) .rest .rest control (fun site member own => ?_) rfl
  subst own
  obtain ⟨start, located, same⟩ := (mem_sites layout site).mp member
  refine Report.read_signed_agree left right site.start site.width
    (contained_readable layout narrow slim site member contained left leftLong)
    (contained_readable layout narrow slim site member contained right rightLong) fun index inside => ?_
  have fits := (contained_fits layout site.control start site.width contained located).resolve_left (by omega)
  rw [same, Report.capped_of_le start (by omega)]
  exact agree_located layout site.control start site.width left right contained agree located index inside

end

theorem buttons_of_readings (one other : State)
    (same : ∀ index, one.reading (.button index) = other.reading (.button index)) : one.buttons = other.buttons := by
  apply UInt8.toBitVec_inj.mp
  apply BitVec.eq_of_getLsbD_eq
  intro index inside
  have shown := same ⟨index, inside⟩
  rw [← one.is_pressed_bit ⟨index, inside⟩, ← other.is_pressed_bit ⟨index, inside⟩]
  cases pressed : one.isPressed index <;> cases also : other.isPressed index <;>
    simp_all [State.reading]

theorem decode_depends_on_own_fields (layout : Layout) (narrow : extent layout.fields < 2147483648)
    (slim : ∀ field ∈ layout.fields, field.width ≤ 32) (left right : Bytes)
    (leftLong : layout.byteLength ≤ left.length) (rightLong : layout.byteLength ≤ right.length) :
    ∃ one other, decode left layout = .ok one ∧ decode right layout = .ok other ∧
      (Contained layout .genericDesktop → AgreeOn .genericDesktop layout left right →
        one.state.x = other.state.x ∧ one.state.y = other.state.y ∧ one.state.wheel = other.state.wheel) ∧
      (Contained layout .consumer → AgreeOn .consumer layout left right → one.state.pan = other.state.pan) ∧
      (AgreeOn .button layout left right → one.state.buttons = other.state.buttons) ∧
      (Contained layout .genericDesktop → Contained layout .consumer → one.error = none) ∧
      (left.length < 536870912 →
        (one.error = none ↔ ∀ control start width, Located layout control start width → Readable left start width)) := by
  have agrees := reading_agrees layout narrow slim left right leftLong rightLong
  refine ⟨readings left layout, readings right layout, narrow_counted layout narrow left, narrow_counted layout narrow right,
    fun contained agree => ⟨?_, ?_, ?_⟩, fun contained agree => ?_, fun agree => ?_, fun desktop consumer => ?_,
    fun short => ?_⟩
  · exact agrees .x contained agree
  · exact agrees .y contained agree
  · exact agrees .wheel contained agree
  · exact agrees .pan contained agree
  · exact buttons_of_readings _ _ fun index => agrees (.button index) (buttons_contained layout) agree
  · refine (readings_complete left layout).mpr fun site member => ?_
    have contained : Contained layout site.control.page := by
      cases site.control with
      | button index => exact buttons_contained layout
      | pan => exact consumer
      | _ => exact desktop
    exact contained_readable layout narrow slim site member contained left leftLong
  -- Sites have capped starts and `Located` has exact ones; a report this short cannot tell them apart.
  · have known (site : Site) := mem_sites layout site
    rw [readings_complete]
    constructor
    · intro complete control start width located
      have member := (known ⟨control, capped start, width⟩).mpr ⟨start, located, rfl⟩
      exact (Report.readable_capped left start width (.inr short)).mp (complete _ member)
    · intro readable site member
      obtain ⟨start, located, same⟩ := (known site).mp member
      rw [same]
      exact (Report.readable_capped left start site.width (.inr short)).mpr (readable _ _ _ located)

def spareLayout : Layout := ⟨1, 2, .input, 0, [
  ⟨1, [0x30, 0x31, 0x38], 6, 4, -31, 31⟩, ⟨12, [0x238], 8, 1, -127, 127⟩, ⟨9, [1, 2, 3], 1, 3, 0, 1⟩, ⟨9, [], 5, 1, 0, 0⟩]⟩

theorem spare_report_decodes : ∃ one other,
    decode [0x41, 0xD0, 0x07, 0x09, 0x05] spareLayout = .ok one ∧
    decode [0x41, 0xD0, 0x07, 0xF7, 0xF2, 0x33] spareLayout = .ok other ∧
    one.state.x = other.state.x ∧ one.state.y = other.state.y ∧ one.state.wheel = other.state.wheel ∧
    one.error = none ∧ other.error = none := by
  have slim : ∀ field ∈ spareLayout.fields, field.width ≤ 32 := by decide
  have narrow : extent spareLayout.fields < 2147483648 := by decide
  have desktop : Contained spareLayout .genericDesktop := contained_of_usages _ _ (by decide)
  have consumer : Contained spareLayout .consumer := contained_of_usages _ _ (by decide)
  obtain ⟨one, other, left, right, axes, _, _, complete, _⟩ := decode_depends_on_own_fields spareLayout narrow slim
    [0x41, 0xD0, 0x07, 0x09, 0x05] [0x41, 0xD0, 0x07, 0xF7, 0xF2, 0x33] (by decide) (by decide)
  obtain ⟨_, _, again, _, _, _, _, also, _⟩ := decode_depends_on_own_fields spareLayout narrow slim
    [0x41, 0xD0, 0x07, 0xF7, 0xF2, 0x33] [0x41, 0xD0, 0x07, 0x09, 0x05] (by decide) (by decide)
  obtain ⟨x, y, wheel⟩ := axes desktop (by decide)
  have whole : other.error = none := Except.ok.inj (again.symm.trans right) ▸ also desktop consumer
  exact ⟨one, other, left, right, x, y, wheel, complete desktop consumer, whole⟩

-- One slot, and two axes declared for it: the second is read from the field of a vendor behind it.
def overrunDescriptor : Bytes := [
  0x05, 0x01, 0x09, 0x02, 0xA1, 0x01,               -- Application (Mouse)
  0x09, 0x30, 0x09, 0x31,                           --   Usage (X), Usage (Y)
  0x75, 0x08, 0x95, 0x01, 0x81, 0x06,               --   one byte
  0x06, 0x00, 0xFF, 0x81, 0x02,                     --   one byte of a vendor page
  0x05, 0x0C, 0x09, 0x00, 0x0A, 0x38, 0x02,         --   Usage (0), Usage (AC Pan)
  0x81, 0x06,                                       --   one byte
  0xC0]

def overrunLayout : Layout :=
  ⟨1, 2, .input, 0, [⟨1, [0x30, 0x31], 8, 1, 0, 0⟩, ⟨0xFF00, [], 8, 1, 0, 0⟩, ⟨0x0C, [0, 0x238], 8, 1, 0, 0⟩]⟩

theorem overrunning_axes_read_on : ∃ catalog, Descriptor.read overrunDescriptor = .ok catalog ∧
    catalog.layout? .input 0 = some overrunLayout ∧ extent overrunLayout.fields < 2147483648 ∧
    (∀ field ∈ overrunLayout.fields, field.width ≤ 32) ∧ overrunLayout.byteLength = 3 ∧
    AgreeOn .genericDesktop overrunLayout [5, 1, 0] [5, 2, 0] ∧
    decode [5, 1, 0] overrunLayout = .ok ⟨⟨5, 1, 0, 0, 0⟩, some (.outOfBounds 24 8 3)⟩ ∧
    decode [5, 2, 0] overrunLayout = .ok ⟨⟨5, 2, 0, 0, 0⟩, some (.outOfBounds 24 8 3)⟩ := by
  have reading : ((Descriptor.read overrunDescriptor).toOption.bind fun catalog => catalog.layout? .input 0) =
      some overrunLayout := by decide +kernel
  cases found : Descriptor.read overrunDescriptor with
  | error fault =>
      rw [found] at reading
      exact nomatch reading
  | ok catalog =>
      rw [found] at reading
      exact ⟨catalog, rfl, reading, by decide, by decide, by decide, by decide, by decide, by decide⟩

end HidRelay.Pointer
