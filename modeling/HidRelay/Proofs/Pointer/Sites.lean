import HidRelay.Pointer.State
import HidRelay.Proofs.Report.SlotReads

set_option autoImplicit false

namespace HidRelay.Pointer

open Report (Field Layout Placed Decoded ReadError Readable readSigned extent capped)

namespace Control

def page : Control → UsagePage
  | .x => .genericDesktop
  | .y => .genericDesktop
  | .wheel => .genericDesktop
  | .pan => .consumer
  | .button _ => .button

def settled (value : Int) : Control → Int
  | .button _ => if value = 0 then 0 else 1
  | _ => value

end Control

theorem button_mask_bit (index : Fin 8) : (buttonMask index).toBitVec = BitVec.twoPow 8 index := by
  revert index
  decide

namespace State

def reading (state : State) : Control → Int
  | .x => state.x
  | .y => state.y
  | .wheel => state.wheel
  | .pan => state.pan
  | .button index => if state.isPressed index then 1 else 0

theorem is_pressed_bit (state : State) (index : Fin 8) :
    state.isPressed index = state.buttons.toBitVec.getLsbD index := by
  have masked : (state.buttons &&& buttonMask index = 0) = (state.buttons.toBitVec.getLsbD index = false) := by
    rw [← UInt8.toBitVec_inj, UInt8.toBitVec_and, button_mask_bit, BitVec.and_twoPow]
    cases state.buttons.toBitVec.getLsbD index with
    | false => simp
    | true =>
        have some : BitVec.twoPow 8 index ≠ 0 := by
          revert index
          decide
        simpa using some
  rw [isPressed, dif_pos index.isLt]
  simp [masked]

theorem pressed_assign (state : State) (value : Int) (index other : Fin 8) :
    (state.assign value (.button index)).isPressed other =
      if index = other then decide (value ≠ 0) else state.isPressed other := by
  have inside := other.isLt
  rw [is_pressed_bit, is_pressed_bit]
  by_cases same : index = other
  · by_cases zero : value = 0 <;> simp [assign, zero, same, button_mask_bit]
  · have apart : other.val ≠ index.val := fun equal => same (Fin.ext equal.symm)
    by_cases zero : value = 0 <;> simp [assign, zero, same, button_mask_bit, apart]

theorem reading_assign (state : State) (value : Int) (control other : Control) :
    (state.assign value control).reading other =
      if control = other then control.settled value else state.reading other := by
  cases control with
  | button index =>
      cases other with
      | button another =>
          by_cases same : index = another
          · by_cases zero : value = 0 <;> simp [reading, pressed_assign, same, zero, Control.settled]
          · simp [reading, pressed_assign, same]
      | _ => rfl
  | _ => cases other <;> rfl

theorem reading_rest (control : Control) : rest.reading control = 0 := by
  cases control with
  | button index =>
      revert index
      decide
  | _ => rfl

end State

def Declares (field : Field) : Control → Nat → Prop
  | .x, slot => UsagePage.ofCode field.page = .genericDesktop ∧ field.usages[slot]? = some Usage.Desktop.x
  | .y, slot => UsagePage.ofCode field.page = .genericDesktop ∧ field.usages[slot]? = some Usage.Desktop.y
  | .wheel, slot => UsagePage.ofCode field.page = .genericDesktop ∧ field.usages[slot]? = some Usage.Desktop.wheel
  | .pan, slot => UsagePage.ofCode field.page = .consumer ∧ field.usages[slot]? = some Usage.Consumer.pan
  | .button index, slot => UsagePage.ofCode field.page = .button ∧ field.isBitmap ∧ slot < field.count ∧
      ∃ first ∈ field.usages.head?, first.toNat + slot = index.val + 1

def Located (layout : Layout) (control : Control) (start width : Nat) : Prop :=
  ∃ (index : Nat) (field : Field) (slot : Nat), layout.fields[index]? = some field ∧ Declares field control slot ∧
    start = extent (layout.fields.take index) + slot * field.width ∧ width = field.width

theorem mem_usage_slots (known : UInt16 → Option Control) (usages : List UInt16) (control : Control) (slot : Nat) :
    (control, slot) ∈ usageSlots known usages ↔ ∃ usage, usages[slot]? = some usage ∧ known usage = some control := by
  simp only [usageSlots, List.mem_filterMap, Option.map_eq_some_iff, Prod.mk.injEq]
  constructor
  · rintro ⟨⟨usage, index⟩, member, other, found, rfl, rfl⟩
    exact ⟨usage, List.mem_zipIdx_iff_getElem?.mp member, found⟩
  · rintro ⟨usage, here, found⟩
    exact ⟨(usage, slot), List.mem_zipIdx_iff_getElem?.mpr here, control, found, rfl, rfl⟩

theorem usage_slots_ascending (known : UInt16 → Option Control) (usages : List UInt16) :
    (usageSlots known usages).Pairwise fun earlier later => earlier.2 < later.2 := by
  refine (Report.numbered_ascending usages).filterMap _ fun one other order first found second also => ?_
  obtain ⟨_, _, rfl⟩ := Option.map_eq_some_iff.mp found
  obtain ⟨_, _, rfl⟩ := Option.map_eq_some_iff.mp also
  exact order

theorem mem_button_slots (first count : Nat) (control : Control) (slot : Nat) : (control, slot) ∈ buttonSlots first count ↔
    ∃ index, control = .button index ∧ slot < count ∧ first + slot = index.val + 1 := by
  simp only [buttonSlots, List.mem_map, List.mem_filter, List.mem_finRange, true_and, decide_eq_true_eq, Prod.mk.injEq]
  constructor
  · rintro ⟨index, inside, rfl, rfl⟩
    exact ⟨index, rfl, by omega, by omega⟩
  · rintro ⟨index, rfl, inside, sum⟩
    exact ⟨index, by omega, rfl, by omega⟩

theorem button_slots_ascending (first count : Nat) :
    (buttonSlots first count).Pairwise fun earlier later => earlier.2 < later.2 := by
  have ordered : (List.finRange 8).Pairwise (· < ·) := List.pairwise_lt_finRange 8
  refine List.pairwise_map.mpr (List.pairwise_filter.mpr (ordered.imp fun {one other} order inside _ => ?_))
  have inOrder : one.val < other.val := order
  simp only [decide_eq_true_eq] at inside
  show one.val + 1 - first < other.val + 1 - first
  omega

theorem desktop_control_iff (usage : UInt16) (control : Control) : desktopControl usage = some control ↔
    (control = .x ∧ usage = Usage.Desktop.x) ∨ (control = .y ∧ usage = Usage.Desktop.y) ∨
      (control = .wheel ∧ usage = Usage.Desktop.wheel) := by
  unfold desktopControl
  by_cases x : usage = Usage.Desktop.x
  · subst x
    cases control <;> decide +revert
  · by_cases y : usage = Usage.Desktop.y
    · subst y
      cases control <;> decide +revert
    · by_cases wheel : usage = Usage.Desktop.wheel
      · subst wheel
        cases control <;> decide +revert
      · simp [x, y, wheel]

theorem declares_page (field : Field) (control : Control) (slot : Nat) (declared : Declares field control slot) :
    UsagePage.ofCode field.page = control.page := by
  cases control <;> exact declared.1

theorem mem_field_slots (field : Field) (control : Control) (slot : Nat) :
    (control, slot) ∈ fieldSlots field ↔ Declares field control slot := by
  unfold fieldSlots
  cases page : UsagePage.ofCode field.page with
  | genericDesktop =>
      simp only [mem_usage_slots, desktop_control_iff]
      cases control <;> simp [Declares, page]
  | consumer =>
      simp only [mem_usage_slots]
      cases control <;> simp [Declares, page, consumerControl]
  | button =>
      cases usages : field.usages with
      | nil => cases control <;> simp [Declares, page, usages]
      | cons first rest =>
          by_cases bitmap : field.isBitmap
          · simp only [bitmap, if_true, mem_button_slots]
            cases control <;> simp [Declares, page, usages, bitmap]
          · cases control <;> simp [Declares, page, bitmap]
  | _ => cases control <;> simp [Declares, page]

theorem field_slots_ascending (field : Field) :
    (fieldSlots field).Pairwise fun earlier later => earlier.2 < later.2 := by
  unfold fieldSlots
  split
  case h_1 => exact usage_slots_ascending _ _
  case h_2 => exact usage_slots_ascending _ _
  case h_3 =>
    split
    · exact List.Pairwise.nil
    · split
      · exact button_slots_ascending _ _
      · exact List.Pairwise.nil
  case h_4 => exact List.Pairwise.nil

structure Site where
  control : Control
  start : Nat
  width : Nat
deriving DecidableEq, Repr

def sitesOf (placed : Placed) : List Site :=
  (fieldSlots placed.field).map fun entry => ⟨entry.1, placed.slot entry.2, placed.field.width⟩

def sites (layout : Layout) : List Site := layout.placed.flatMap sitesOf

def State.take (report : Bytes) (state : State) (site : Site) : State :=
  match readSigned report site.start site.width with
  | .ok value => state.assign value site.control
  | .error _ => state

theorem State.take_readable (report : Bytes) (state : State) (site : Site)
    (readable : Readable report site.start site.width) :
    ∃ value, readSigned report site.start site.width = .ok value ∧ state.take report site = state.assign value site.control := by
  obtain ⟨value, read⟩ := Report.read_signed_readable report site.start site.width readable
  exact ⟨value, read, by rw [State.take, read]⟩

theorem State.take_unreadable (report : Bytes) (state : State) (site : Site)
    (unreadable : ¬ Readable report site.start site.width) : state.take report site = state := by
  obtain ⟨error, failed⟩ := Report.read_signed_unreadable report site.start site.width unreadable
  rw [State.take, failed]

theorem State.take_other (report : Bytes) (state : State) (site : Site) (control : Control)
    (other : site.control ≠ control) : (state.take report site).reading control = state.reading control := by
  by_cases readable : Readable report site.start site.width
  · obtain ⟨value, _, taken⟩ := state.take_readable report site readable
    rw [taken, reading_assign, if_neg other]
  · rw [state.take_unreadable report site readable]

theorem fold_untouched (report : Bytes) (sites : List Site) (state : State) (control : Control)
    (unread : ∀ site ∈ sites, site.control = control → ¬ Readable report site.start site.width) :
    (sites.foldl (State.take report) state).reading control = state.reading control := by
  induction sites generalizing state with
  | nil => rfl
  | cons site rest ih =>
      rw [List.foldl_cons, ih _ fun other member => unread other (List.mem_cons_of_mem _ member)]
      by_cases own : site.control = control
      · rw [state.take_unreadable report site (unread site List.mem_cons_self own)]
      · exact state.take_other report site control own

theorem fold_settled (report : Bytes) (sites : List Site) (state : State) (control : Control) (settled : Int)
    (holds : ∀ site ∈ sites, site.control = control → Readable report site.start site.width →
      ∃ value, readSigned report site.start site.width = .ok value ∧ control.settled value = settled)
    (read : state.reading control = settled ∨
      ∃ site ∈ sites, site.control = control ∧ Readable report site.start site.width) :
    (sites.foldl (State.take report) state).reading control = settled := by
  induction sites generalizing state with
  | nil => simpa using read
  | cons site rest ih =>
      refine ih _ (fun other member => holds other (List.mem_cons_of_mem _ member)) ?_
      by_cases now : site.control = control ∧ Readable report site.start site.width
      · obtain ⟨own, readable⟩ := now
        obtain ⟨value, found, shown⟩ := holds site List.mem_cons_self own readable
        rw [State.take, found]
        exact .inl (by rw [State.reading_assign, if_pos own, own, shown])
      · have kept : (state.take report site).reading control = state.reading control := by
          by_cases own : site.control = control
          · rw [state.take_unreadable report site fun readable => now ⟨own, readable⟩]
          · exact state.take_other report site control own
        rcases read with already | ⟨other, member, own, readable⟩
        · exact .inl (kept.trans already)
        · rcases List.mem_cons.mp member with rfl | later
          · exact absurd ⟨own, readable⟩ now
          · exact .inr ⟨other, later, own, readable⟩

theorem fold_agree (left right : Bytes) (sites : List Site) (one other : State) (control : Control)
    (alike : ∀ site ∈ sites, site.control = control →
      readSigned left site.start site.width = readSigned right site.start site.width)
    (same : one.reading control = other.reading control) :
    (sites.foldl (State.take left) one).reading control = (sites.foldl (State.take right) other).reading control := by
  induction sites generalizing one other with
  | nil => exact same
  | cons site rest ih =>
      refine ih _ _ (fun next member => alike next (List.mem_cons_of_mem _ member)) ?_
      by_cases own : site.control = control
      · rw [State.take, State.take, alike site List.mem_cons_self own]
        cases readSigned right site.start site.width with
        | ok value => simp only [State.reading_assign, if_pos own]
        | error error => exact same
      · rw [one.take_other left site control own, other.take_other right site control own, same]

theorem take_outside (report : Bytes) (state : State) (outside : List Site)
    (unreadable : ∀ site ∈ outside, ¬ Readable report site.start site.width) : outside.foldl (State.take report) state = state := by
  induction outside with
  | nil => rfl
  | cons site rest ih =>
      rw [List.foldl_cons, State.take_unreadable report state site (unreadable site List.mem_cons_self)]
      exact ih fun other member => unreadable other (List.mem_cons_of_mem _ member)

-- Reading stops at the first slot that lies outside, but so do all the slots behind it.
theorem read_controls_state (report : Bytes) (placed : Placed) (slots : List (Control × Nat)) (state : State)
    (ascending : slots.Pairwise fun earlier later => earlier.2 < later.2) :
    (readControls report placed slots).1.foldl (fun state entry => state.assign entry.2 entry.1) state =
      (slots.map fun entry => (⟨entry.1, placed.slot entry.2, placed.field.width⟩ : Site)).foldl
        (State.take report) state := by
  induction slots generalizing state with
  | nil => rfl
  | cons entry rest ih =>
      obtain ⟨control, slot⟩ := entry
      obtain ⟨first, others⟩ := List.pairwise_cons.mp ascending
      rw [readControls]
      cases read : readSigned report (placed.slot slot) placed.field.width with
      | ok value =>
          simp only [List.foldl_cons, List.map_cons, State.take, read]
          exact ih _ others
      | error error =>
          refine (take_outside report state _ fun site member readable => ?_).symm
          have outside : ¬ Readable report (placed.slot slot) placed.field.width := by
            intro inside
            obtain ⟨value, found⟩ := Report.read_signed_readable report _ _ inside
            rw [read] at found
            exact nomatch found
          rcases List.mem_cons.mp member with rfl | later
          · exact outside readable
          · obtain ⟨other, known, rfl⟩ := List.mem_map.mp later
            exact outside (Report.readable_earlier report _ _ _ (Report.slot_ascending placed _ _ (Nat.le_of_lt (first other known))) readable)

theorem read_controls_complete (report : Bytes) (placed : Placed) (slots : List (Control × Nat)) :
    (readControls report placed slots).2 = none ↔
      ∀ entry ∈ slots, Readable report (placed.slot entry.2) placed.field.width := by
  induction slots with
  | nil => simp [readControls]
  | cons entry rest ih =>
      obtain ⟨control, slot⟩ := entry
      rw [readControls, List.forall_mem_cons, ← ih]
      by_cases readable : Readable report (placed.slot slot) placed.field.width
      · obtain ⟨value, read⟩ := Report.read_signed_readable report _ _ readable
        simp only [read, readable, true_and]
      · obtain ⟨error, failed⟩ := Report.read_signed_unreadable report _ _ readable
        simp [failed, readable]

def readings (report : Bytes) (layout : Layout) : Decoded State :=
  gather (layout.placed.map fun placed => readControls report placed (fieldSlots placed.field))

theorem readings_state (report : Bytes) (layout : Layout) :
    (readings report layout).state = (sites layout).foldl (State.take report) State.rest := by
  simp only [readings, gather, sites, List.flatMap_map]
  generalize State.rest = state
  induction layout.placed generalizing state with
  | nil => rfl
  | cons placed rest ih =>
      rw [List.flatMap_cons, List.flatMap_cons, List.foldl_append, List.foldl_append, ih,
        read_controls_state report placed _ state (field_slots_ascending placed.field)]
      rfl

theorem readings_complete (report : Bytes) (layout : Layout) :
    (readings report layout).error = none ↔ ∀ site ∈ sites layout, Readable report site.start site.width := by
  simp only [readings, gather, List.findSome?_eq_none_iff, List.forall_mem_map, read_controls_complete, sites, sitesOf,
    List.forall_mem_flatMap]

section

variable {α β : Type} (items : List α) (read : α → Except NumberOverflow β)

theorem all_counted (value : α → β) (each : ∀ item ∈ items, read item = .ok (value item)) :
    items.mapM read = .ok (items.map value) := by
  induction items with
  | nil => rfl
  | cons item rest ih =>
      obtain ⟨first, others⟩ := List.forall_mem_cons.mp each
      rw [List.mapM_cons, first, ih others]
      rfl

theorem one_overflows (item : α) (member : item ∈ items) (overflows : read item = .error ⟨⟩) :
    items.mapM read = .error ⟨⟩ := by
  induction items with
  | nil => cases member
  | cons first rest ih =>
      rw [List.mapM_cons]
      cases here : read first with
      | error _ => rfl
      | ok value =>
          rcases List.mem_cons.mp member with rfl | later
          · cases here.symm.trans overflows
          · rw [ih later]
            rfl

end

def Overflows (report : Bytes) (placed : Placed) : Prop :=
  outnumbered placed.field ∧ (readControls report placed (fieldSlots placed.field)).2 = none

instance (report : Bytes) (placed : Placed) : Decidable (Overflows report placed) := by
  unfold Overflows
  infer_instance

theorem decode_overflow (report : Bytes) (layout : Layout) (placed : Placed) (member : placed ∈ layout.placed)
    (overflows : Overflows report placed) : decode report layout = .error ⟨⟩ := by
  rw [decode, one_overflows layout.placed (readField report) placed member (if_pos overflows)]
  rfl

theorem decode_counted (report : Bytes) (layout : Layout) (within : ∀ placed ∈ layout.placed, ¬ Overflows report placed) :
    decode report layout = .ok (readings report layout) := by
  rw [decode, all_counted layout.placed (readField report) _ fun placed member => if_neg (within placed member)]
  rfl

theorem decode_error_iff (report : Bytes) (layout : Layout) :
    decode report layout = .error ⟨⟩ ↔ ∃ placed ∈ layout.placed, Overflows report placed := by
  constructor
  · intro failed
    by_contra within
    have decoded := decode_counted report layout fun placed member overflows => within ⟨placed, member, overflows⟩
    cases decoded.symm.trans failed
  · rintro ⟨placed, member, overflows⟩
    exact decode_overflow report layout placed member overflows

theorem decode_ok (report : Bytes) (layout : Layout) (decoded : Decoded State) (done : decode report layout = .ok decoded) :
    decoded = readings report layout := by
  have within : ∀ placed ∈ layout.placed, ¬ Overflows report placed := by
    intro placed member overflows
    cases done.symm.trans (decode_overflow report layout placed member overflows)
  exact Except.ok.inj (done.symm.trans (decode_counted report layout within))

theorem outnumbered_iff (field : Field) : outnumbered field ↔
    UsagePage.ofCode field.page = .button ∧ field.isBitmap ∧
      ∃ first ∈ field.usages.head?, 4294967296 < first.toNat + field.count := by
  unfold outnumbered
  cases UsagePage.ofCode field.page with
  | button => cases field.usages <;> simp
  | _ => simp

theorem bitmap_width (field : Field) (bitmap : field.isBitmap) : field.width = 1 := by
  simp only [Field.isBitmap, decide_eq_true_eq] at bitmap
  exact bitmap.1

theorem few_counted (layout : Layout)
    (few : ∀ field ∈ layout.fields, UsagePage.ofCode field.page = .button → field.isBitmap → field.count ≤ 2147483648)
    (report : Bytes) : decode report layout = .ok (readings report layout) := by
  refine decode_counted report layout fun placed member overflows => ?_
  obtain ⟨page, bitmap, first, _, many⟩ := (outnumbered_iff placed.field).mp overflows.1
  have bound := few placed.field (Report.Layout.placed_field layout placed member) page bitmap
  have small := first.toNat_lt
  omega

theorem narrow_counted (layout : Layout) (narrow : extent layout.fields < 2147483648) (report : Bytes) :
    decode report layout = .ok (readings report layout) := by
  refine few_counted layout (fun field member _ bitmap => ?_) report
  obtain ⟨index, here⟩ := List.mem_iff_getElem?.mp member
  have own := Report.extent_split layout.fields index field here
  rw [bitmap_width field bitmap, Nat.one_mul] at own
  omega

theorem mem_sites (layout : Layout) (site : Site) :
    site ∈ sites layout ↔ ∃ start, Located layout site.control start site.width ∧ site.start = capped start := by
  simp only [sites, sitesOf, List.mem_flatMap, List.mem_map]
  constructor
  · rintro ⟨placed, member, ⟨control, slot⟩, declared, rfl⟩
    obtain ⟨index, here⟩ := List.mem_iff_getElem?.mp member
    rw [Layout.placed_exact] at here
    obtain ⟨field, known, rfl⟩ := Option.map_eq_some_iff.mp here
    exact ⟨_, ⟨index, field, slot, known, (mem_field_slots field control slot).mp declared, rfl, rfl⟩,
      Report.slot_exact _ slot field⟩
  · rintro ⟨start, ⟨index, field, slot, known, declared, rfl, width⟩, same⟩
    obtain ⟨control, siteStart, siteWidth⟩ := site
    cases width
    simp only at same
    refine ⟨⟨capped (extent (layout.fields.take index)), field⟩, ?_, (control, slot),
      (mem_field_slots field control slot).mpr declared, ?_⟩
    · refine List.mem_iff_getElem?.mpr ⟨index, ?_⟩
      rw [Layout.placed_exact, known]
      rfl
    · rw [Report.slot_exact, same]

end HidRelay.Pointer
