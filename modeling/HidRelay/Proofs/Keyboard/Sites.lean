import Mathlib.Data.List.Basic
import Mathlib.Data.List.Induction
import HidRelay.Keyboard.Held
import HidRelay.Proofs.Report.SlotReads

set_option autoImplicit false

namespace HidRelay.Keyboard

open Report (Field Layout Placed Decoded ReadError extent capped number positionLimit)

-- A bit of a bitmap stands for a usage of its own; elsewhere the number read is the usage.
structure Site where
  start : Nat
  width : Nat
  usage : Option UInt16
deriving DecidableEq, Repr

namespace Site

def Inside (report : Bytes) (site : Site) : Prop := site.start + site.width ≤ 8 * report.length

instance (report : Bytes) (site : Site) : Decidable (site.Inside report) :=
  inferInstanceAs (Decidable (site.start + site.width ≤ 8 * report.length))

def value (report : Bytes) (site : Site) : Nat := number report site.start site.width

def key? (report : Bytes) (site : Site) : Option UInt16 :=
  if site.Inside report ∧ site.value report ≠ 0 then some (site.usage.getD (UInt16.ofNat (site.value report))) else none

end Site

def Eligible (field : Field) : Prop :=
  field.usages ≠ [] ∧ (field.width = 1 ∧ 1 < field.count ∨ field.width = 8 ∨ field.width = 16)

instance (field : Field) : Decidable (Eligible field) :=
  inferInstanceAs (Decidable (field.usages ≠ [] ∧ (field.width = 1 ∧ 1 < field.count ∨ field.width = 8 ∨ field.width = 16)))

def slotUsages (field : Field) : List (Option UInt16) :=
  if field.width = 1 then (field.usages.take field.count).map some else List.replicate field.count none

def fieldSites (start : Nat) (field : Field) : List Site :=
  (slotUsages field).zipIdx.map fun entry => ⟨start + entry.2 * field.width, field.width, entry.1⟩

def keyPage (layout : Layout) : UInt16 := ((layout.fields.find? (Eligible ·)).map Field.page).getD 0

def keyFields (layout : Layout) : List (Field × Nat) :=
  layout.fields.zipIdx.filter fun entry => Eligible entry.1 ∧ entry.1.page = keyPage layout

def sites (layout : Layout) : List Site :=
  (keyFields layout).flatMap fun entry => fieldSites (extent (layout.fields.take entry.2)) entry.1

theorem is_key_field_iff (field : Field) : isKeyField field = true ↔ Eligible field := by
  simp only [isKeyField, Field.isBitmap, Eligible, decide_eq_true_eq]

theorem slot_usages_length (field : Field) : (slotUsages field).length ≤ field.count := by
  unfold slotUsages
  split
  · rw [List.length_map]
    exact List.length_take_le _ _
  · rw [List.length_replicate]

def named (read : List (Option UInt16 × Nat)) : List UInt16 :=
  read.filterMap fun entry => if entry.2 = 0 then none else some (entry.1.getD (UInt16.ofNat entry.2))

theorem named_clear (label : Option UInt16) (rest : List (Option UInt16 × Nat)) : named ((label, 0) :: rest) = named rest :=
  rfl

theorem named_set (label : Option UInt16) (value : Nat) (rest : List (Option UInt16 × Nat)) (set : value ≠ 0) :
    named ((label, value) :: rest) = label.getD (UInt16.ofNat value) :: named rest :=
  List.filterMap_cons_some (if_neg set)

theorem named_bits (usages : List UInt16) (bits : List Nat) (count : Nat) (few : bits.length ≤ count) :
    ((usages.zip bits).filter (·.2 ≠ 0)).map (·.1) = named (((usages.take count).map some).zip bits) := by
  induction bits generalizing usages count with
  | nil =>
      rw [List.zip_nil_right, List.zip_nil_right]
      rfl
  | cons bit rest ih =>
      obtain ⟨less, rfl⟩ := Nat.exists_eq_add_of_le' (Nat.lt_of_lt_of_le (Nat.succ_pos _) few)
      cases usages with
      | nil => rfl
      | cons usage others =>
          have later := ih others less (Nat.le_of_succ_le_succ few)
          rw [List.take_succ_cons, List.map_cons, List.zip_cons_cons, List.zip_cons_cons]
          by_cases clear : bit = 0
          · rw [List.filter_cons_of_neg (by simpa using clear), clear, named_clear, later]
          · rw [List.filter_cons_of_pos (by simpa using clear), List.map_cons, named_set _ _ _ clear, later]
            rfl

theorem named_numbers (numbers : List Nat) (count : Nat) (few : numbers.length ≤ count) :
    (numbers.filter (· ≠ 0)).map UInt16.ofNat = named ((List.replicate count none).zip numbers) := by
  induction numbers generalizing count with
  | nil =>
      rw [List.zip_nil_right]
      rfl
  | cons number rest ih =>
      obtain ⟨less, rfl⟩ := Nat.exists_eq_add_of_le' (Nat.lt_of_lt_of_le (Nat.succ_pos _) few)
      have later := ih less (Nat.le_of_succ_le_succ few)
      rw [List.replicate_succ, List.zip_cons_cons]
      by_cases clear : number = 0
      · rw [List.filter_cons_of_neg (by simpa using clear), clear, named_clear, later]
      · rw [List.filter_cons_of_pos (by simpa using clear), List.map_cons, named_set _ _ _ clear, later]
        rfl

theorem field_keys_labelled (report : Bytes) (placed : Placed) (eligible : Eligible placed.field) :
    fieldKeys report placed =
      (named ((slotUsages placed.field).zip (placed.readSlots report 0 (slotUsages placed.field).length).1),
        (placed.readSlots report 0 (slotUsages placed.field).length).2) := by
  obtain ⟨_, shape⟩ := eligible
  unfold fieldKeys
  by_cases single : placed.field.width = 1
  · have several : 1 < placed.field.count := by omega
    have bitmap : placed.field.isBitmap = true := by simp [Field.isBitmap, single, several]
    have usages : slotUsages placed.field = (placed.field.usages.take placed.field.count).map some := if_pos single
    have few := Report.Placed.read_slots_length report placed 0 (min placed.field.usages.length placed.field.count)
    have count : (slotUsages placed.field).length = min placed.field.usages.length placed.field.count := by
      rw [usages, List.length_map, List.length_take, Nat.min_comm]
    rw [if_pos bitmap, count, usages, ← named_bits _ _ _ (Nat.le_trans few (Nat.min_le_right _ _))]
  · have array : ¬ placed.field.isBitmap = true := by simp [Field.isBitmap, single]
    have usages : slotUsages placed.field = List.replicate placed.field.count none := if_neg single
    have few := Report.Placed.read_slots_length report placed 0 placed.field.count
    have count : (slotUsages placed.field).length = placed.field.count := by rw [usages, List.length_replicate]
    rw [if_neg array, count, usages, ← named_numbers _ _ few]

theorem named_inside (report : Bytes) (start : Nat) (field : Field) (labels : List (Option UInt16 × Nat)) :
    named ((labels.filter fun entry => start + entry.2 * field.width + field.width ≤ 8 * report.length).map
        fun entry => (entry.1, number report (start + entry.2 * field.width) field.width)) =
      (labels.map fun entry => (⟨start + entry.2 * field.width, field.width, entry.1⟩ : Site)).filterMap
        (Site.key? report) := by
  rw [named, List.filterMap_map, List.filterMap_filter, List.filterMap_map]
  refine List.filterMap_congr fun entry _ => ?_
  by_cases inside : start + entry.2 * field.width + field.width ≤ 8 * report.length
  · by_cases clear : number report (start + entry.2 * field.width) field.width = 0 <;>
      simp [Site.key?, Site.Inside, Site.value, inside, clear]
  · simp [Site.key?, Site.Inside, inside]

theorem field_keys_sites (report : Bytes) (start : Nat) (field : Field) (eligible : Eligible field)
    (near : start + field.width * field.count ≤ positionLimit ∨ report.length < 536870912) :
    (fieldKeys report ⟨capped start, field⟩).1 = (fieldSites start field).filterMap (Site.key? report) ∧
    ((fieldKeys report ⟨capped start, field⟩).2 = none ↔ ∀ site ∈ fieldSites start field, site.Inside report) := by
  have positive : 0 < field.width := by
    obtain ⟨_, shape⟩ := eligible
    omega
  have narrow : field.width ≤ 32 := by
    obtain ⟨_, shape⟩ := eligible
    omega
  have total : (0 + (slotUsages field).length) * field.width ≤ field.width * field.count := by
    rw [Nat.zero_add, Nat.mul_comm]
    exact Nat.mul_le_mul_left _ (slot_usages_length field)
  have reach : start + (0 + (slotUsages field).length) * field.width ≤ positionLimit ∨ report.length < 536870912 :=
    near.imp_left (Nat.le_trans (Nat.add_le_add_left total start))
  rw [field_keys_labelled report _ eligible]
  constructor
  · rw [Report.Placed.read_slots_labelled report start field _ 0 positive narrow reach]
    exact named_inside report start field _
  · rw [Report.Placed.read_slots_inside report start field _ 0 positive narrow reach, fieldSites, List.forall_mem_map]
    exact Iff.rfl

theorem eligible_placed (layout : Layout) :
    (layout.placed.filter fun placed => isKeyField placed.field) =
      (layout.fields.zipIdx.filter fun entry => Eligible entry.1).map
        fun entry => ⟨capped (extent (layout.fields.take entry.2)), entry.1⟩ := by
  rw [Layout.placed_numbered, List.filter_map]
  refine congrArg (List.map _) (List.filter_congr fun entry _ => ?_)
  exact Bool.eq_iff_iff.mpr ((is_key_field_iff entry.1).trans decide_eq_true_iff.symm)

theorem eligible_page (layout : Layout) :
    ((layout.placed.filter fun placed => isKeyField placed.field).head?.map fun placed => placed.field.page).getD 0 =
      keyPage layout := by
  have first : layout.fields.find? (Eligible ·) =
      (layout.fields.zipIdx.find? fun entry => Eligible entry.1).map Prod.fst :=
    calc layout.fields.find? (Eligible ·) = (layout.fields.zipIdx.map Prod.fst).find? (Eligible ·) := by
          rw [List.zipIdx_map_fst]
      _ = _ := List.find?_map
  rw [eligible_placed, List.head?_map, List.head?_filter, keyPage, first, Option.map_map, Option.map_map]
  rfl

theorem press_all_page (keys : List UInt16) (held : Held) : (keys.foldl Held.press held).page = held.page := by
  induction keys generalizing held with
  | nil => rfl
  | cons key rest ih => rw [List.foldl_cons, ih, Held.press_page]

theorem press_all_keys (keys : List UInt16) (page : UInt16) :
    (keys.foldl Held.press (Held.empty page)).keys = keys.eraseDups := by
  induction keys using List.reverseRecOn with
  | nil => rfl
  | append_singleton keys key ih =>
      rw [List.foldl_append, List.eraseDups_append, ← ih, List.foldl_cons, List.foldl_nil, Held.press]
      by_cases known : key ∈ keys
      · have down : key ∈ (keys.foldl Held.press (Held.empty page)).keys := by
          rw [ih]
          exact List.mem_eraseDups.mpr known
        rw [dif_neg (not_not_intro down)]
        simp [List.removeAll, known]
      · have up : key ∉ (keys.foldl Held.press (Held.empty page)).keys := by
          rw [ih]
          exact mt List.mem_eraseDups.mp known
        rw [dif_pos up]
        simp [List.removeAll, known, List.eraseDups_cons]

theorem decode_sites (report : Bytes) (layout : Layout)
    (near : extent layout.fields ≤ positionLimit ∨ report.length < 536870912) :
    (decode report layout).state.page = keyPage layout ∧
    (decode report layout).state.keys = ((sites layout).filterMap (Site.key? report)).eraseDups ∧
    ((decode report layout).error = none ↔ ∀ site ∈ sites layout, site.Inside report) := by
  have counted : ((layout.placed.filter fun placed => isKeyField placed.field).filter
      fun placed => placed.field.page = keyPage layout) =
      (keyFields layout).map fun entry => ⟨capped (extent (layout.fields.take entry.2)), entry.1⟩ := by
    rw [eligible_placed, List.filter_map, List.filter_filter, keyFields]
    refine congrArg (List.map _) (List.filter_congr fun entry _ => ?_)
    simp [Bool.and_comm]
  have read : ∀ entry ∈ keyFields layout,
      (fieldKeys report ⟨capped (extent (layout.fields.take entry.2)), entry.1⟩).1 =
          (fieldSites (extent (layout.fields.take entry.2)) entry.1).filterMap (Site.key? report) ∧
        ((fieldKeys report ⟨capped (extent (layout.fields.take entry.2)), entry.1⟩).2 = none ↔
          ∀ site ∈ fieldSites (extent (layout.fields.take entry.2)) entry.1, site.Inside report) := by
    intro entry member
    obtain ⟨here, counts⟩ := List.mem_filter.mp member
    have within := Report.extent_split layout.fields entry.2 entry.1 (List.mem_zipIdx_iff_getElem?.mp here)
    exact field_keys_sites report _ entry.1 (decide_eq_true_iff.mp counts).1
      (near.imp_left fun short => by omega)
  simp only [decode, eligible_page, counted, List.map_map]
  refine ⟨?_, ?_, ?_⟩
  · exact press_all_page _ _
  · rw [press_all_keys, List.flatMap_map, sites, List.filterMap_flatMap]
    exact congrArg List.eraseDups (List.flatMap_congr fun entry member => (read entry member).1)
  · rw [List.findSome?_eq_none_iff, List.forall_mem_map, sites, List.forall_mem_flatMap]
    exact forall₂_congr fun entry member => (read entry member).2

theorem mem_field_sites (start : Nat) (field : Field) (site : Site) (member : site ∈ fieldSites start field) :
    site.width = field.width ∧ ∃ slot, slot < field.count ∧ site.start = start + slot * field.width := by
  obtain ⟨entry, known, rfl⟩ := List.mem_map.mp member
  have inside := (List.getElem?_eq_some_iff.mp (List.mem_zipIdx_iff_getElem?.mp known)).1
  exact ⟨rfl, entry.2, Nat.lt_of_lt_of_le inside (slot_usages_length field), rfl⟩

theorem site_within (layout : Layout) (site : Site) (member : site ∈ sites layout) :
    site.start + site.width ≤ extent layout.fields := by
  obtain ⟨entry, known, own⟩ := List.mem_flatMap.mp member
  obtain ⟨width, slot, inside, start⟩ := mem_field_sites _ entry.1 site own
  have here := List.mem_zipIdx_iff_getElem?.mp (List.mem_filter.mp known).1
  rw [start, width]
  exact Report.slot_within layout.fields entry.2 slot entry.1 here inside

-- Every layout is one that its fields were pushed to, so this is about any that a descriptor leads to.
theorem decode_names_keys (report : Bytes) (layout : Layout) (narrow : extent layout.fields < 4294967296) :
    let decoded := decode report layout
    decoded.state.page = keyPage layout ∧
    decoded.state.keys = ((sites layout).filterMap (Site.key? report)).eraseDups ∧
    decoded.state.keys.Nodup ∧
    (decoded.error = none ↔ ∀ site ∈ sites layout, site.Inside report) ∧
    (layout.byteLength ≤ report.length → decoded.error = none) := by
  have near : extent layout.fields ≤ positionLimit := Nat.le_of_lt_succ narrow
  obtain ⟨page, keys, complete⟩ := decode_sites report layout (.inl near)
  refine ⟨page, keys, (decode report layout).state.distinct, complete, fun long => complete.mpr fun site member => ?_⟩
  have within := site_within layout site member
  rw [Layout.byteLength, Report.Layout.bit_length_exact, Report.capped_of_le _ near] at long
  rw [Site.Inside]
  omega

def mediaLayout : Layout := ⟨1, 6, .input, 0, [
  ⟨7, [0xE0, 0xE1, 0xE2, 0xE3, 0xE4, 0xE5, 0xE6, 0xE7], 1, 8, 0, 1⟩, ⟨7, [], 8, 1, 0, 0⟩, ⟨12, [0], 16, 1, 0, 1023⟩,
  ⟨7, [0, 1], 8, 3, 0, 255⟩]⟩

theorem short_media_report_named :
    let decoded := decode [0x02, 0x00, 0xE9, 0x00, 0xE1, 0x04] mediaLayout
    extent mediaLayout.fields < 4294967296 ∧ decoded.state.page = 7 ∧ decoded.state.keys = [0xE1, 0x04] ∧
      decoded.error ≠ none := by
  intro decoded
  have narrow : extent mediaLayout.fields < 4294967296 := by decide
  obtain ⟨page, keys, _, complete, _⟩ := decode_names_keys [0x02, 0x00, 0xE9, 0x00, 0xE1, 0x04] mediaLayout narrow
  refine ⟨narrow, page.trans (by decide), keys.trans (by decide +kernel), fun whole => ?_⟩
  exact absurd (complete.mp whole ⟨48, 8, none⟩ (by decide)) (by decide)

end HidRelay.Keyboard
