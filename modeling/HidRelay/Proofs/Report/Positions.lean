import Mathlib.Algebra.GroupWithZero.Nat
import HidRelay.Proofs.Descriptor.Keyed

/-!
Bit positions added up exactly. The positions of a layout are these sums, each stopped at the position
limit on its own: stopping at every field on the way loses nothing. This holds of every layout, so of
every layout that a descriptor leads to.
-/

set_option autoImplicit false

namespace HidRelay

namespace Report

theorem capped_of_le (position : Nat) (within : position ≤ 4294967295) : capped position = position :=
  Nat.min_eq_left within

theorem capped_add (left right : Nat) : capped (capped left + right) = capped (left + right) := by
  simp only [capped]
  omega

theorem add_capped (left right : Nat) : capped (left + capped right) = capped (left + right) := by
  simp only [capped]
  omega

def extent (fields : List Field) : Nat := (fields.map fun field => field.width * field.count).sum

theorem extent_cons (field : Field) (rest : List Field) :
    extent (field :: rest) = field.width * field.count + extent rest := List.sum_cons

theorem extent_append (before after : List Field) : extent (before ++ after) = extent before + extent after := by
  simp [extent]

theorem extent_split (fields : List Field) (index : Nat) (field : Field) (here : fields[index]? = some field) :
    extent fields =
      extent (fields.take index) + field.width * field.count + extent (fields.drop (index + 1)) := by
  obtain ⟨inside, same⟩ := List.getElem?_eq_some_iff.mp here
  calc extent fields = extent (fields.take index ++ fields[index] :: fields.drop (index + 1)) := by
        rw [← List.drop_eq_getElem_cons inside, List.take_append_drop]
    _ = extent (fields.take index) + (field.width * field.count + extent (fields.drop (index + 1))) := by
        rw [extent_append, extent_cons, same]
    _ = _ := (Nat.add_assoc _ _ _).symm

theorem extent_take_le (fields : List Field) (index later : Nat) (field : Field) (here : fields[index]? = some field)
    (order : index < later) :
    extent (fields.take index) + field.width * field.count ≤ extent (fields.take later) := by
  have known : (fields.take later)[index]? = some field := (List.getElem?_take_of_lt order).trans here
  have split := extent_split (fields.take later) index field known
  rw [List.take_take, Nat.min_eq_left (Nat.le_of_lt order)] at split
  omega

theorem bit_length_of_fields (start : Nat) (fields : List Field) :
    fields.foldl (fun length field => capped (length + field.bitLength)) (capped start) =
      capped (start + extent fields) := by
  induction fields generalizing start with
  | nil => rfl
  | cons field rest ih =>
      have next : capped (capped start + field.bitLength) = capped (start + field.width * field.count) := by
        rw [Field.bitLength, add_capped, capped_add]
      rw [List.foldl_cons, next, ih, extent_cons, Nat.add_assoc]

theorem place_exact (start index : Nat) (fields : List Field) :
    (place (capped start) fields)[index]? =
      fields[index]?.map fun field => ⟨capped (start + extent (fields.take index)), field⟩ := by
  induction fields generalizing start index with
  | nil => rfl
  | cons field rest ih =>
      have next : capped (capped start + field.bitLength) = capped (start + field.width * field.count) := by
        rw [Field.bitLength, add_capped, capped_add]
      cases index with
      | zero => rfl
      | succ index =>
          rw [place, next, List.getElem?_cons_succ, ih, List.getElem?_cons_succ, List.take_succ_cons, extent_cons,
            Nat.add_assoc]

namespace Layout

structure Spaced (layout : Layout) : Prop where
  field_placed : ∀ index field, layout.fields[index]? = some field →
    layout.placed[index]? = some (Placed.mk (min 4294967295 (extent (layout.fields.take index))) field)
  same_count : layout.placed.length = layout.fields.length
  field_length : ∀ field ∈ layout.fields, field.bitLength = min 4294967295 (field.width * field.count)
  bit_length : layout.bitLength = min 4294967295 (extent layout.fields)

theorem placed_exact (layout : Layout) (index : Nat) :
    layout.placed[index]? =
      layout.fields[index]?.map fun field => ⟨capped (extent (layout.fields.take index)), field⟩ := by
  have placed := place_exact 0 index layout.fields
  rw [Nat.zero_add] at placed
  exact placed

theorem placed_field (layout : Layout) (placed : Placed) (member : placed ∈ layout.placed) :
    placed.field ∈ layout.fields := by
  obtain ⟨index, here⟩ := List.mem_iff_getElem?.mp member
  rw [placed_exact] at here
  obtain ⟨field, known, rfl⟩ := Option.map_eq_some_iff.mp here
  exact List.mem_of_getElem? known

theorem placed_numbered (layout : Layout) : layout.placed =
    layout.fields.zipIdx.map fun entry => ⟨capped (extent (layout.fields.take entry.2)), entry.1⟩ := by
  apply List.ext_getElem?
  intro index
  rw [placed_exact, List.getElem?_map, List.getElem?_zipIdx, Nat.zero_add, Option.map_map]
  rfl

theorem place_length (start : Nat) (fields : List Field) : (place start fields).length = fields.length := by
  induction fields generalizing start with
  | nil => rfl
  | cons field rest ih => exact congrArg (· + 1) (ih _)

theorem bit_length_exact (layout : Layout) : layout.bitLength = capped (extent layout.fields) := by
  have length := bit_length_of_fields 0 layout.fields
  rw [Nat.zero_add] at length
  exact length

theorem spaced (layout : Layout) : layout.Spaced where
  field_placed index field here := by
    rw [placed_exact, here, Option.map_some, capped, positionLimit, Nat.min_comm]
  same_count := place_length 0 layout.fields
  field_length field _ := Nat.min_comm _ _
  bit_length := (bit_length_exact layout).trans (Nat.min_comm _ _)

theorem fields_pushed (layout : Layout) (fields : List Field) :
    (fields.foldl push layout).fields = layout.fields ++ fields := by
  induction fields generalizing layout with
  | nil => exact (List.append_nil _).symm
  | cons field rest ih => rw [List.foldl_cons, ih, push, List.append_assoc, List.singleton_append]

end Layout
end Report

namespace Descriptor

open Report (Kind Field Layout extent)

theorem layouts_spaced :
    (∀ descriptor catalog kind id layout, read descriptor = .ok catalog → catalog.layout? kind id = some layout →
      layout.kind = kind ∧ layout.id = id ∧ layout.Spaced) ∧
    ∀ page usage kind id (fields : List Field),
      let built := fields.foldl Layout.push (Layout.new page usage kind id)
      built.fields = fields ∧ built.Spaced := by
  refine ⟨fun descriptor catalog kind id layout found stored => ?_, fun page usage kind id fields => ?_⟩
  · obtain ⟨sameKind, sameId⟩ := read_keyed descriptor catalog found kind id layout stored
    exact ⟨sameKind, sameId, layout.spaced⟩
  · exact ⟨(Layout.new page usage kind id).fields_pushed fields, Layout.spaced _⟩

def overlongDescriptor : Bytes := [
  0x05, 0x01, 0x09, 0x02, 0xA1, 0x01,   -- Application (Mouse)
  0x85, 0x02,                           --   Report ID (2)
  0x75, 0x08, 0x95, 0x01, 0x81, 0x02,   --   one byte
  0x77, 0xFF, 0xFF, 0xFF, 0xFF,         --   Report Size (the largest)
  0x97, 0xFF, 0xFF, 0xFF, 0xFF,         --   Report Count (the largest)
  0x81, 0x02,
  0x75, 0x01, 0x95, 0x08, 0x81, 0x02,   --   eight bits behind it
  0xC0]

def overlongLayout : Layout :=
  ⟨1, 2, .input, 2, [⟨1, [], 8, 1, 0, 0⟩, ⟨1, [], 4294967295, 4294967295, 0, 0⟩, ⟨1, [], 1, 8, 0, 0⟩]⟩

theorem overlong_layout_spaced : ∃ catalog, read overlongDescriptor = .ok catalog ∧
    catalog.layout? .input 2 = some overlongLayout ∧ overlongLayout.Spaced ∧
    overlongLayout.placed.map (·.offset) = [0, 8, 4294967295] := by
  have reading : ((read overlongDescriptor).toOption.bind fun catalog => catalog.layout? .input 2) =
      some overlongLayout := by decide +kernel
  cases found : read overlongDescriptor with
  | error fault =>
      rw [found] at reading
      exact nomatch reading
  | ok catalog =>
      rw [found] at reading
      have spaced := layouts_spaced.1 overlongDescriptor catalog .input 2 overlongLayout found reading
      exact ⟨catalog, rfl, reading, spaced.2.2, by decide⟩

end Descriptor
end HidRelay
