import HidRelay.Descriptor.Reader

set_option autoImplicit false

namespace HidRelay

namespace Report.Catalog

def Keyed (catalog : Catalog) : Prop :=
  ∀ kind id layout, catalog.layout? kind id = some layout → layout.kind = kind ∧ layout.id = id

theorem empty_keyed : Keyed empty := by
  intro kind id layout found
  rw [layout_empty] at found
  exact nomatch found

theorem insert_keyed (catalog : Catalog) (layout : Layout) (keyed : catalog.Keyed) : (catalog.insert layout).Keyed := by
  intro kind id other found
  rw [layout_insert] at found
  by_cases own : kind = layout.kind ∧ id = layout.id
  · rw [if_pos own] at found
    cases found
    exact ⟨own.1.symm, own.2.symm⟩
  · rw [if_neg own] at found
    exact keyed kind id other found

theorem resolved_stored (catalog : Catalog) (keyed : catalog.Keyed) (id : UInt8) (layout : Layout)
    (found : catalog.resolveInput id = some layout) : catalog.layout? .input layout.id = some layout := by
  have stored : ∃ key, catalog.layout? .input key = some layout := by
    rw [resolveInput] at found
    cases direct : catalog.input.lookup id with
    | some known =>
        rw [direct] at found
        cases found
        exact ⟨id, direct⟩
    | none =>
        rw [direct] at found
        by_cases numbered : catalog.usesReportIds
        · rw [if_pos numbered] at found
          exact nomatch found
        · rw [if_neg numbered] at found
          exact ⟨0, found⟩
  obtain ⟨key, present⟩ := stored
  rw [(keyed .input key layout present).2]
  exact present

end Report.Catalog

namespace Descriptor

open Report (Kind Catalog)

theorem close_keyed (id : UInt8) (catalog : Catalog) (collection : Collection) (keyed : catalog.Keyed) :
    (collection.close id catalog).Keyed := by
  cases collection with
  | plain => exact keyed
  | application page usage fields =>
      have input := Catalog.insert_keyed catalog (Collection.layout page usage fields id .input) keyed
      have output := Catalog.insert_keyed _ (Collection.layout page usage fields id .output) input
      exact Catalog.insert_keyed _ (Collection.layout page usage fields id .feature) output

theorem step_catalog (reader next : Reader) (offset : Nat) (directive : Directive)
    (stepped : reader.step offset directive = .ok next) :
    (directive ≠ .endCollection ∧ next.catalog = reader.catalog) ∨
    ∃ closed outer, directive = .endCollection ∧ reader.collections = closed :: outer ∧
      next.catalog = closed.close reader.globals.id reader.catalog := by
  cases directive with
  | endCollection =>
      rw [Reader.step] at stepped
      cases opened : reader.collections with
      | nil =>
          rw [opened] at stepped
          exact nomatch stepped
      | cons closed outer =>
          rw [opened] at stepped
          cases stepped
          exact .inr ⟨closed, outer, rfl, rfl, rfl⟩
  | pop =>
      rw [Reader.step] at stepped
      cases pushed : reader.saved with
      | nil =>
          rw [pushed] at stepped
          exact nomatch stepped
      | cons globals saved =>
          rw [pushed] at stepped
          cases stepped
          exact .inl ⟨Directive.noConfusion, rfl⟩
  | usagesUpTo last =>
      rw [Reader.step] at stepped
      cases first : reader.usages.getLast? with
      | none =>
          rw [first] at stepped
          exact nomatch stepped
      | some usage =>
          rw [first] at stepped
          cases stepped
          exact .inl ⟨Directive.noConfusion, rfl⟩
  | _ =>
      cases stepped
      exact .inl ⟨Directive.noConfusion, rfl⟩

theorem run_keyed (reader final : Reader) (items : List Item) (keyed : reader.catalog.Keyed)
    (ran : reader.run items = .ok final) : final.catalog.Keyed := by
  induction items generalizing reader with
  | nil =>
      cases ran
      exact keyed
  | cons item rest ih =>
      rw [Reader.run] at ran
      cases stepped : reader.step item.offset item.directive with
      | error fault =>
          rw [stepped] at ran
          exact nomatch ran
      | ok next =>
          rw [stepped] at ran
          refine ih next ?_ ran
          rcases step_catalog reader next item.offset item.directive stepped with ⟨_, same⟩ | ⟨closed, _, _, _, changed⟩
          · exact same ▸ keyed
          · exact changed ▸ close_keyed reader.globals.id reader.catalog closed keyed

theorem run_of_read (descriptor : Bytes) (catalog : Catalog) (found : read descriptor = .ok catalog) :
    ∃ final, Reader.initial.run (scan 0 descriptor).items = .ok final ∧ final.catalog = catalog := by
  simp only [read] at found
  cases ran : Reader.initial.run (scan 0 descriptor).items with
  | error fault =>
      rw [ran] at found
      exact nomatch found
  | ok final =>
      rw [ran] at found
      cases cut : (scan 0 descriptor).truncated with
      | some offset =>
          rw [cut] at found
          exact nomatch found
      | none =>
          rw [cut] at found
          cases found
          exact ⟨final, rfl, rfl⟩

theorem read_keyed (descriptor : Bytes) (catalog : Catalog) (found : read descriptor = .ok catalog) : catalog.Keyed := by
  obtain ⟨final, ran, rfl⟩ := run_of_read descriptor catalog found
  exact run_keyed .initial final _ Catalog.empty_keyed ran

end Descriptor
end HidRelay
