import HidRelay.Proofs.Descriptor.Keyed
import HidRelay.Proofs.Descriptor.Outline
import HidRelay.Proofs.TableTotals

/-!
The applications of a descriptor in the order in which they close. Layouts without fields are not left
out: an application that declares no input answers for a report ID that no input report has, or hides
the input layout of another application.
-/

set_option autoImplicit false

namespace HidRelay

namespace Report.Catalog

theorem uses_report_ids_iff (catalog : Catalog) :
    catalog.usesReportIds = true ↔ ∃ id layout, id ≠ 0 ∧ catalog.layout? .input id = some layout := by
  simp only [usesReportIds, OrderedTable.keys, List.any_map, List.any_eq_true, Function.comp_apply, decide_eq_true_iff,
    Prod.exists]
  constructor
  · intro ⟨id, layout, member, numbered⟩
    exact ⟨id, layout, numbered, (OrderedTable.mem_entries _ id layout).mp member⟩
  · intro ⟨id, layout, numbered, stored⟩
    exact ⟨id, layout, (OrderedTable.mem_entries _ id layout).mpr stored, numbered⟩

theorem resolve_input_eq (catalog : Catalog) (id : UInt8) :
    catalog.resolveInput id = catalog.layout? .input (if catalog.usesReportIds then id else 0) := by
  have own : catalog.input.lookup id = catalog.layout? .input id := rfl
  rw [resolveInput, own]
  cases stored : catalog.layout? .input id with
  | none =>
      cases catalog.usesReportIds with
      | true => exact stored.symm
      | false => rfl
  | some layout =>
      cases numbered : catalog.usesReportIds with
      | true => exact stored.symm
      | false =>
          have unnumbered := mt (uses_report_ids_iff catalog).mpr (Bool.eq_false_iff.mp numbered)
          have zero : id = 0 := Classical.not_not.mp fun nonzero => unnumbered ⟨id, layout, nonzero, stored⟩
          exact zero ▸ stored.symm

theorem resolve_input_of_same (left right : Catalog) (same : ∀ id, left.layout? .input id = right.layout? .input id)
    (id : UInt8) : left.resolveInput id = right.resolveInput id := by
  have numbered : left.usesReportIds = right.usesReportIds := by
    rw [Bool.eq_iff_iff, uses_report_ids_iff, uses_report_ids_iff]
    simp only [same]
  rw [resolve_input_eq, resolve_input_eq, same, numbered]

theorem resolve_input_of_shadow (full bare : Catalog) (target : UInt8) (own : Layout)
    (shadowed : ∀ id, full.layout? .input id = if id = target then some own else bare.layout? .input id) (id : UInt8) :
    full.resolveInput id =
      if id = target ∨ target = 0 ∧ bare.usesReportIds = false then some own
      else if target = 0 then bare.resolveInput id
      else bare.layout? .input id := by
  by_cases zero : target = 0
  · have numbered : full.usesReportIds = bare.usesReportIds := by
      rw [Bool.eq_iff_iff, uses_report_ids_iff, uses_report_ids_iff]
      refine exists_congr fun other => exists_congr fun layout => and_congr_right fun nonzero => ?_
      rw [shadowed, if_neg fun same => nonzero (same.trans zero)]
    rw [resolve_input_eq, resolve_input_eq, shadowed, numbered]
    cases bare.usesReportIds <;> simp [zero]
  · have numbered : full.usesReportIds = true :=
      (uses_report_ids_iff full).mpr ⟨target, own, zero, by rw [shadowed, if_pos rfl]⟩
    rw [resolve_input_eq, numbered, if_pos rfl, shadowed]
    simp [zero]

end Report.Catalog

namespace Descriptor

open Report (Kind Field Layout Catalog)

structure Closing where
  page : UInt16
  usage : UInt16
  fields : List (Kind × Field)
  id : UInt8
deriving DecidableEq, Repr

namespace Closing

def layout (closing : Closing) (kind : Kind) : Layout :=
  Collection.layout closing.page closing.usage closing.fields closing.id kind

def layouts (closing : Closing) : List Layout := [Kind.input, .output, .feature].map closing.layout

def Silent (closing : Closing) : Prop := ∀ declared ∈ closing.fields, declared.1 ≠ .input

instance (closing : Closing) : Decidable closing.Silent :=
  inferInstanceAs (Decidable (∀ declared ∈ closing.fields, declared.1 ≠ .input))

theorem silent_layout (closing : Closing) (silent : closing.Silent) : (closing.layout .input).fields = [] := by
  have none : (closing.fields.filter fun declared => declared.1 = .input) = [] :=
    List.filter_eq_nil_iff.mpr fun declared member => by simpa using silent declared member
  rw [layout, Collection.layout, none, List.map_nil]

end Closing

def Reader.closing? (reader : Reader) : Directive → Option Closing
  | .endCollection =>
      match reader.collections with
      | .application page usage fields :: _ => some ⟨page, usage, fields, reader.globals.id⟩
      | _ => none
  | _ => none

def Reader.closings (reader : Reader) : List Item → List Closing
  | [] => []
  | item :: rest =>
      match reader.step item.offset item.directive with
      | .error _ => []
      | .ok next => (reader.closing? item.directive).toList ++ next.closings rest

def closings (descriptor : Bytes) : List Closing := Reader.initial.closings (scan 0 descriptor).items

def layoutsOf (closings : List Closing) : List Layout := closings.flatMap Closing.layouts

def withoutInput (before : List Closing) (closing : Closing) (after : List Closing) : Catalog :=
  Catalog.ofLayouts (layoutsOf before ++ [closing.layout .output, closing.layout .feature] ++ layoutsOf after)

theorem step_closing (reader next : Reader) (offset : Nat) (directive : Directive)
    (stepped : reader.step offset directive = .ok next) :
    next.catalog = insertAll (layoutsOf (reader.closing? directive).toList) reader.catalog := by
  rcases step_catalog reader next offset directive stepped with ⟨other, same⟩ | ⟨closed, outer, rfl, opened, closes⟩
  · have none : reader.closing? directive = none := by
      cases directive with
      | endCollection => exact absurd rfl other
      | _ => rfl
    rw [same, none]
    rfl
  · rw [closes, Reader.closing?, opened]
    cases closed with
    | plain => rfl
    | application page usage fields => rfl

theorem run_closings (reader final : Reader) (items : List Item) (ran : reader.run items = .ok final) :
    final.catalog = insertAll (layoutsOf (reader.closings items)) reader.catalog := by
  induction items generalizing reader with
  | nil =>
      cases ran
      rfl
  | cons item rest ih =>
      rw [Reader.run] at ran
      rw [Reader.closings]
      cases stepped : reader.step item.offset item.directive with
      | error fault =>
          rw [stepped] at ran
          cases ran
      | ok next =>
          rw [stepped] at ran
          rw [ih next ran, step_closing reader next item.offset item.directive stepped, ← insert_all_append]
          exact congrArg (insertAll · reader.catalog) List.flatMap_append.symm

theorem read_closings (descriptor : Bytes) (catalog : Catalog) (found : read descriptor = .ok catalog) :
    catalog = Catalog.ofLayouts (layoutsOf (closings descriptor)) := by
  obtain ⟨final, ran, rfl⟩ := run_of_read descriptor catalog found
  exact run_closings .initial final _ ran

theorem last_of_closing (closing : Closing) (id : UInt8) :
    lastOf .input id closing.layouts = if id = closing.id then some (closing.layout .input) else none := by
  by_cases own : id = closing.id
  · simp [lastOf, Closing.layouts, Closing.layout, Collection.layout, own]
  · simp [lastOf, Closing.layouts, Closing.layout, Collection.layout, own, Ne.symm own]

theorem last_of_closings (closings : List Closing) (id : UInt8) :
    lastOf .input id (layoutsOf closings) = none ↔ ∀ closing ∈ closings, closing.id ≠ id := by
  induction closings with
  | nil => simp [layoutsOf, lastOf]
  | cons closing rest ih =>
      have split : layoutsOf (closing :: rest) = closing.layouts ++ layoutsOf rest := List.flatMap_cons
      rw [split, last_of_append, Option.or_eq_none_iff, ih, last_of_closing, List.forall_mem_cons, and_comm]
      refine and_congr_left fun _ => ?_
      by_cases own : id = closing.id
      · simp [own]
      · simp [own, Ne.symm own]

section
variable (before after : List Closing) (closing : Closing)

theorem full_input (id : UInt8) : (Catalog.ofLayouts (layoutsOf (before ++ closing :: after))).layout? .input id =
    (lastOf .input id (layoutsOf after)).or
      (if id = closing.id then some (closing.layout .input) else lastOf .input id (layoutsOf before)) := by
  have split : layoutsOf (before ++ closing :: after) = layoutsOf before ++ (closing.layouts ++ layoutsOf after) := by
    rw [layoutsOf, List.flatMap_append, List.flatMap_cons]
    rfl
  rw [layout_of_layouts, split, last_of_append, last_of_append, last_of_closing, Option.or_assoc]
  split <;> rfl

theorem bare_input (id : UInt8) : (withoutInput before closing after).layout? .input id =
    (lastOf .input id (layoutsOf after)).or (lastOf .input id (layoutsOf before)) := by
  rw [withoutInput, layout_of_layouts, last_of_append, last_of_append]
  rfl

theorem full_input_of_later (later : ∃ other ∈ after, other.id = closing.id) (id : UInt8) :
    (Catalog.ofLayouts (layoutsOf (before ++ closing :: after))).layout? .input id =
      (withoutInput before closing after).layout? .input id := by
  rw [full_input, bare_input]
  by_cases own : id = closing.id
  · obtain ⟨other, member, same⟩ := later
    have known : lastOf .input id (layoutsOf after) ≠ none := fun none =>
      (last_of_closings after id).mp none other member (same.trans own.symm)
    obtain ⟨layout, stored⟩ := Option.ne_none_iff_exists'.mp known
    rw [stored]
    rfl
  · rw [if_neg own]

theorem full_input_of_last (last : ¬ ∃ other ∈ after, other.id = closing.id) (id : UInt8) :
    (Catalog.ofLayouts (layoutsOf (before ++ closing :: after))).layout? .input id =
      if id = closing.id then some (closing.layout .input) else (withoutInput before closing after).layout? .input id := by
  rw [full_input, bare_input]
  by_cases own : id = closing.id
  · have none : lastOf .input id (layoutsOf after) = none :=
      (last_of_closings after id).mpr fun other member same => last ⟨other, member, same.trans own⟩
    rw [none, if_pos own, if_pos own]
    rfl
  · rw [if_neg own, if_neg own]

end

-- Under its own report ID the empty layout is found, unless a later application has that ID too. If the ID
-- is not zero, the catalog counts as one with report IDs, though no input report may have any.
theorem silent_application_resolves (descriptor : Bytes) (catalog : Catalog) (before after : List Closing)
    (closing : Closing) (found : read descriptor = .ok catalog) (split : closings descriptor = before ++ closing :: after)
    (silent : closing.Silent) (id : UInt8) :
    let without := withoutInput before closing after
    (closing.layout .input).fields = [] ∧
    catalog.resolveInput id =
      if ∃ other ∈ after, other.id = closing.id then without.resolveInput id
      else if id = closing.id ∨ closing.id = 0 ∧ without.usesReportIds = false then some (closing.layout .input)
      else if closing.id = 0 then without.resolveInput id
      else without.layout? .input id := by
  intro without
  refine ⟨closing.silent_layout silent, ?_⟩
  rw [read_closings descriptor catalog found, split]
  by_cases later : ∃ other ∈ after, other.id = closing.id
  · rw [if_pos later]
    exact Catalog.resolve_input_of_same _ _ (full_input_of_later before after closing later) id
  · rw [if_neg later]
    exact Catalog.resolve_input_of_shadow _ _ closing.id _ (full_input_of_last before after closing later) id

def lightsDescriptor (numbering : Bytes) : Bytes := [
  0x05, 0x01,   -- Usage Page (Generic Desktop)
  0x09, 0x06,   -- Usage (Keyboard)
  0xA1, 0x01,   -- Collection (Application)
  0x05, 0x07,   --   Usage Page (Keyboard/Keypad)
  0x19, 0x04,   --   Usage Minimum (a)
  0x29, 0x07,   --   Usage Maximum (d)
  0x75, 0x08,   --   Report Size (8)
  0x95, 0x02,   --   Report Count (2)
  0x81, 0x00,   --   Input (Data, Array)
  0xC0,         -- End Collection
  0x05, 0x01,   -- Usage Page (Generic Desktop)
  0x09, 0x06,   -- Usage (Keyboard)
  0xA1, 0x01]   -- Collection (Application)
  ++ numbering ++ [
  0x05, 0x08,   --   Usage Page (LED)
  0x19, 0x01,   --   Usage Minimum (Num Lock)
  0x29, 0x03,   --   Usage Maximum (Scroll Lock)
  0x75, 0x01,   --   Report Size (1)
  0x95, 0x03,   --   Report Count (3)
  0x91, 0x02,   --   Output (Data, Variable, Absolute)
  0xC0]         -- End Collection

def keysClosing : Closing := ⟨0x01, 0x06, [(.input, ⟨0x07, [4, 5, 6, 7], 8, 2, 0, 0⟩)], 0⟩

def lightsClosing (id : UInt8) : Closing := ⟨0x01, 0x06, [(.output, ⟨0x08, [1, 2, 3], 1, 3, 0, 0⟩)], id⟩

-- No input report has the ID 2, and yet it resolves; and 5 no longer leads to the keyboard.
theorem numbered_lights_shadow_keyboard :
    closings (lightsDescriptor [0x85, 0x02]) = [keysClosing] ++ lightsClosing 2 :: [] ∧ (lightsClosing 2).Silent ∧
    ∃ catalog, read (lightsDescriptor [0x85, 0x02]) = .ok catalog ∧
      catalog.resolveInput 2 = some ((lightsClosing 2).layout .input) ∧
      catalog.resolveInput 0 = some (keysClosing.layout .input) ∧ catalog.resolveInput 5 = none := by
  have split : closings (lightsDescriptor [0x85, 0x02]) = [keysClosing] ++ lightsClosing 2 :: [] := by decide +kernel
  have silent : (lightsClosing 2).Silent := by decide
  have accepted : (read (lightsDescriptor [0x85, 0x02])).isOk = true := by decide +kernel
  cases found : read (lightsDescriptor [0x85, 0x02]) with
  | error fault =>
      rw [found] at accepted
      cases accepted
  | ok catalog =>
      have resolves := silent_application_resolves _ catalog _ _ _ found split silent
      refine ⟨split, silent, catalog, rfl, ?_, ?_, ?_⟩
      · rw [(resolves 2).2]
        decide +kernel
      · rw [(resolves 0).2]
        decide +kernel
      · rw [(resolves 5).2]
        decide +kernel

theorem unnumbered_lights_hide_keyboard :
    closings (lightsDescriptor []) = [keysClosing] ++ lightsClosing 0 :: [] ∧ (lightsClosing 0).Silent ∧
    ∃ catalog, read (lightsDescriptor []) = .ok catalog ∧
      catalog.resolveInput 0 = some ((lightsClosing 0).layout .input) ∧
      (withoutInput [keysClosing] (lightsClosing 0) []).resolveInput 0 = some (keysClosing.layout .input) ∧
      catalog.resolveInput 0 ≠ (withoutInput [keysClosing] (lightsClosing 0) []).resolveInput 0 := by
  have hidden : (read (lightsDescriptor [])).toOption.bind (fun catalog => catalog.resolveInput 0) =
      some ((lightsClosing 0).layout .input) := by decide +kernel
  have shown : (withoutInput [keysClosing] (lightsClosing 0) []).resolveInput 0 =
      some (keysClosing.layout .input) := by decide +kernel
  cases found : read (lightsDescriptor []) with
  | error fault =>
      rw [found] at hidden
      cases hidden
  | ok catalog =>
      rw [found] at hidden
      have resolved : catalog.resolveInput 0 = some ((lightsClosing 0).layout .input) := hidden
      refine ⟨by decide +kernel, by decide, catalog, rfl, resolved, shown, ?_⟩
      rw [resolved, shown]
      decide

end Descriptor
end HidRelay
