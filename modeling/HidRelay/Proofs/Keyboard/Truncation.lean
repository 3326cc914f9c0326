import Mathlib.Data.List.TakeWhile
import HidRelay.Proofs.Keyboard.Sites

/-!
A report that is cut short. The sites follow one another in the report, so those that are left are the
first ones, and they name the keys that they named before: the keys of the shorter report are the first
keys of the longer one.
-/

set_option autoImplicit false

namespace HidRelay.Keyboard

open Report (Field Layout extent number positionLimit)

theorem field_sites_ordered (start : Nat) (field : Field) :
    (fieldSites start field).Pairwise fun earlier later => earlier.start + earlier.width ≤ later.start + later.width := by
  refine List.pairwise_map.mpr ((Report.numbered_ascending (slotUsages field)).imp fun order => ?_)
  have scaled := Nat.mul_le_mul_right field.width (Nat.le_of_lt order)
  exact Nat.add_le_add_right (Nat.add_le_add_left scaled start) field.width

theorem sites_ordered (layout : Layout) :
    (sites layout).Pairwise fun earlier later => earlier.start + earlier.width ≤ later.start + later.width := by
  have numbered : layout.fields.zipIdx.Pairwise fun earlier later =>
      extent (layout.fields.take earlier.2) + earlier.1.width * earlier.1.count ≤ extent (layout.fields.take later.2) := by
    rw [List.pairwise_iff_getElem]
    intro earlier later inside _ order
    rw [List.getElem_zipIdx, List.getElem_zipIdx, Nat.zero_add, Nat.zero_add]
    rw [List.length_zipIdx] at inside
    exact Report.extent_take_le layout.fields earlier later _ (List.getElem?_eq_getElem inside) order
  refine List.pairwise_flatMap.mpr ⟨fun entry _ => field_sites_ordered _ entry.1, (numbered.filter _).imp ?_⟩
  intro one other apart early ownEarly late ownLate
  obtain ⟨width, slot, inside, start⟩ := mem_field_sites _ one.1 early ownEarly
  obtain ⟨_, _, _, start'⟩ := mem_field_sites _ other.1 late ownLate
  have ends := Report.slot_ends one.1 slot inside
  rw [start, width, start']
  omega

theorem key_of_inside (report : Bytes) (count : Nat) (site : Site) (inside : site.Inside (report.take count)) :
    site.Inside report ∧ site.key? (report.take count) = site.key? report := by
  have fewer := List.length_take_le' count report
  have whole : site.Inside report := Nat.le_trans inside (Nat.mul_le_mul_left 8 fewer)
  have same : site.value (report.take count) = site.value report := by
    refine Report.number_agree _ _ _ _ fun index within => Report.bit_at_take report count _ ?_
    rw [Site.Inside] at inside
    omega
  exact ⟨whole, by simp only [Site.key?, inside, whole, same]⟩

theorem keys_of_cut (report : Bytes) (count : Nat) (sites : List Site)
    (ordered : sites.Pairwise fun earlier later => earlier.start + earlier.width ≤ later.start + later.width) :
    sites.filterMap (Site.key? (report.take count)) =
      (sites.takeWhile fun site => site.Inside (report.take count)).filterMap (Site.key? report) := by
  induction sites with
  | nil => rfl
  | cons site rest ih =>
      obtain ⟨first, others⟩ := List.pairwise_cons.mp ordered
      by_cases inside : site.Inside (report.take count)
      · rw [List.takeWhile_cons_of_pos (by simpa using inside), List.filterMap_cons, List.filterMap_cons, ih others,
          (key_of_inside report count site inside).2]
      · have outside : ∀ other ∈ site :: rest, other.key? (report.take count) = none := by
          intro other member
          refine if_neg fun named => inside ?_
          rcases List.mem_cons.mp member with rfl | later
          · exact named.1
          · exact Nat.le_trans (first other later) named.1
        rw [List.filterMap_eq_nil_iff.mpr outside, List.takeWhile_cons_of_neg (by simpa using inside)]
        rfl

theorem erase_dups_prefix (shorter longer : List UInt16) (begins : shorter <+: longer) :
    shorter.eraseDups <+: longer.eraseDups := by
  obtain ⟨more, rfl⟩ := begins
  rw [List.eraseDups_append]
  exact List.prefix_append _ _

theorem held_eq (one other : Held) (page : one.page = other.page) (keys : one.keys = other.keys) : one = other := by
  cases one
  cases other
  cases page
  cases keys
  rfl

theorem decode_cut_short (report : Bytes) (layout : Layout) (count : Nat) (short : report.length < 536870912) :
    let whole := decode report layout
    let cut := decode (report.take count) layout
    cut.state.page = whole.state.page ∧ cut.state.keys <+: whole.state.keys ∧
    (cut.error = none → whole.error = none ∧ cut.state = whole.state) ∧
    (whole.error ≠ none → cut.error ≠ none) := by
  have shorter : (report.take count).length < 536870912 := Nat.lt_of_le_of_lt (List.length_take_le' _ _) short
  obtain ⟨page, keys, complete⟩ := decode_sites report layout (.inr short)
  obtain ⟨cutPage, cutKeys, cutComplete⟩ := decode_sites (report.take count) layout (.inr shorter)
  rw [keys_of_cut report count _ (sites_ordered layout)] at cutKeys
  have samePage := cutPage.trans page.symm
  have grows : (decode (report.take count) layout).error = none → (decode report layout).error = none := by
    rw [complete, cutComplete]
    exact fun all site member => (key_of_inside report count site (all site member)).1
  refine ⟨samePage, ?_, fun all => ⟨grows all, ?_⟩, mt grows⟩
  · rw [cutKeys, keys]
    exact erase_dups_prefix _ _ ((List.takeWhile_prefix _).filterMap _)
  · have everything : (sites layout).takeWhile (fun site => site.Inside (report.take count)) = sites layout :=
      List.takeWhile_eq_self_iff.mpr fun site member => by simpa using cutComplete.mp all site member
    rw [everything] at cutKeys
    exact held_eq _ _ samePage (cutKeys.trans keys.symm)

-- Two keys, a field as long as can be declared, and two modifiers that no report reaches.
def remoteLayout : Layout := ⟨1, 6, .input, 0, [
  ⟨7, [0], 8, 2, 0, 255⟩, ⟨7, [0], 4294967295, 4294967295, 0, 0⟩, ⟨7, [0xE0, 0xE1], 1, 2, 0, 1⟩]⟩

theorem remote_report_cut_short :
    let report : Bytes := [0x04, 0x05, 0x06]
    let whole := decode report remoteLayout
    let cut := decode (report.take 1) remoteLayout
    report.length < 536870912 ∧ whole.state.keys = [0x04, 0x05] ∧ cut.state.page = 7 ∧ cut.state.keys <+: [0x04, 0x05] ∧
      whole.error ≠ none ∧ cut.error ≠ none := by
  intro report whole cut
  have short : report.length < 536870912 := by decide
  have keys : whole.state.keys = [0x04, 0x05] := by decide +kernel
  have incomplete : whole.error ≠ none := by decide +kernel
  obtain ⟨page, begins, _, kept⟩ := decode_cut_short report remoteLayout 1 short
  exact ⟨short, keys, page.trans (by decide +kernel), keys ▸ begins, incomplete, kept incomplete⟩

end HidRelay.Keyboard
