import HidRelay.Proofs.Descriptor.Keyed
import HidRelay.Proofs.Descriptor.Tokens

/-!
How large the numbers of a field can be. An item has four bytes for its value at the most, so whatever a
descriptor says, the widths and counts of the layouts that it leads to are numbers of 32 bits.
-/

set_option autoImplicit false

namespace HidRelay

open Report (Kind Field Catalog)

def Report.Field.InWords (field : Field) : Prop := field.width < 4294967296 ∧ field.count < 4294967296

def Report.Catalog.InWords (catalog : Catalog) : Prop :=
  ∀ kind id layout, catalog.layout? kind id = some layout → ∀ field ∈ layout.fields, field.InWords

theorem Report.Catalog.insert_in_words (catalog : Catalog) (layout : Report.Layout) (kept : catalog.InWords)
    (fits : ∀ field ∈ layout.fields, field.InWords) : (catalog.insert layout).InWords := by
  intro kind id other found
  rw [layout_insert] at found
  split at found
  · cases found
    exact fits
  · exact kept kind id other found

namespace Descriptor

def Globals.InWords (globals : Globals) : Prop := globals.width < 4294967296 ∧ globals.count < 4294967296

def Collection.InWords : Collection → Prop
  | .application _ _ fields => ∀ declared ∈ fields, declared.2.InWords
  | .plain => True

def Directive.InWords : Directive → Prop
  | .reportSize width => width < 4294967296
  | .reportCount count => count < 4294967296
  | _ => True

structure Reader.InWords (reader : Reader) : Prop where
  globals : reader.globals.InWords
  saved : ∀ globals ∈ reader.saved, globals.InWords
  collections : ∀ collection ∈ reader.collections, collection.InWords
  catalog : reader.catalog.InWords

theorem initial_in_words : Reader.initial.InWords where
  globals := ⟨by decide, by decide⟩
  saved := by simp [Reader.initial]
  collections := by simp [Reader.initial]
  catalog := by
    intro kind id layout found
    rw [Reader.initial, Catalog.layout_empty] at found
    cases found

theorem declare_in_words (kind : Kind) (field : Field) (fits : field.InWords) (collections : List Collection)
    (kept : ∀ collection ∈ collections, collection.InWords) :
    ∀ collection ∈ Collection.declare kind field collections, collection.InWords := by
  induction collections with
  | nil => exact kept
  | cons innermost outer ih =>
      obtain ⟨first, others⟩ := List.forall_mem_cons.mp kept
      cases innermost with
      | plain => exact List.forall_mem_cons.mpr ⟨trivial, ih others⟩
      | application page usage fields =>
          refine List.forall_mem_cons.mpr ⟨fun declared member => ?_, others⟩
          rcases List.mem_append.mp member with earlier | last
          · exact first declared earlier
          · cases List.mem_singleton.mp last
            exact fits

theorem close_in_words (id : UInt8) (catalog : Catalog) (collection : Collection) (kept : catalog.InWords)
    (closed : collection.InWords) : (collection.close id catalog).InWords := by
  cases collection with
  | plain => exact kept
  | application page usage fields =>
      have fits (kind : Kind) : ∀ field ∈ (Collection.layout page usage fields id kind).fields, field.InWords := by
        intro field member
        obtain ⟨declared, listed, rfl⟩ := List.mem_map.mp member
        exact closed declared (List.mem_filter.mp listed).1
      have input := Catalog.insert_in_words catalog _ kept (fits .input)
      have output := Catalog.insert_in_words _ _ input (fits .output)
      exact Catalog.insert_in_words _ _ output (fits .feature)

theorem step_in_words (reader next : Reader) (offset : Nat) (directive : Directive) (kept : reader.InWords)
    (fits : directive.InWords) (stepped : reader.step offset directive = .ok next) : next.InWords := by
  cases directive with
  | declare kind =>
      cases stepped
      exact { kept with collections := declare_in_words kind (reader.globals.field reader.usages) kept.globals _ kept.collections }
  | beginCollection application =>
      cases stepped
      refine { kept with collections := List.forall_mem_cons.mpr ⟨?_, kept.collections⟩ }
      cases application with
      | false => exact trivial
      | true => exact fun declared member => absurd member List.not_mem_nil
  | endCollection =>
      rw [Reader.step] at stepped
      cases opened : reader.collections with
      | nil =>
          rw [opened] at stepped
          cases stepped
      | cons closed outer =>
          rw [opened] at stepped
          cases stepped
          obtain ⟨first, others⟩ := List.forall_mem_cons.mp (opened ▸ kept.collections)
          exact { kept with collections := others, catalog := close_in_words _ _ closed kept.catalog first }
  | pop =>
      rw [Reader.step] at stepped
      cases pushed : reader.saved with
      | nil =>
          rw [pushed] at stepped
          cases stepped
      | cons globals saved =>
          rw [pushed] at stepped
          cases stepped
          obtain ⟨first, others⟩ := List.forall_mem_cons.mp (pushed ▸ kept.saved)
          exact { kept with globals := first, saved := others }
  | usagesUpTo last =>
      rw [Reader.step] at stepped
      cases first : reader.usages.getLast? with
      | none =>
          rw [first] at stepped
          cases stepped
      | some usage =>
          rw [first] at stepped
          cases stepped
          exact { kept with }
  | push =>
      cases stepped
      exact { kept with saved := List.forall_mem_cons.mpr ⟨kept.globals, kept.saved⟩ }
  | reportSize width =>
      cases stepped
      exact { kept with globals := ⟨fits, kept.globals.2⟩ }
  | reportCount count =>
      cases stepped
      exact { kept with globals := ⟨kept.globals.1, fits⟩ }
  | _ =>
      cases stepped
      exact { kept with }

theorem item_in_words (item : Item) (short : item.payload.length ≤ 4) : item.directive.InWords := by
  have bound : item.unsigned < 4294967296 := by
    have wider : Word.span 32 = Word.span (8 * item.payload.length) * Word.span (32 - 8 * item.payload.length) := by
      rw [← Word.span_add, Nat.add_sub_cancel' (by omega)]
    have rest := Nat.le_mul_of_pos_right (Word.span (8 * item.payload.length))
      (Word.span_pos (32 - 8 * item.payload.length))
    exact Nat.lt_of_lt_of_le (Word.of_bytes_lt item.payload) (Nat.le_trans rest (Nat.le_of_eq wider.symm))
  unfold Item.directive
  repeat' split
  all_goals simp [Directive.InWords, bound]

theorem items_short (tokens : List Token) (offset : Nat) (wellFormed : ∀ token ∈ tokens, token.WellFormed) :
    ∀ item ∈ Token.items offset tokens, item.payload.length ≤ 4 := by
  induction tokens generalizing offset with
  | nil => simp [Token.items]
  | cons token rest ih =>
      obtain ⟨first, others⟩ := List.forall_mem_cons.mp wellFormed
      refine List.forall_mem_append.mpr ⟨fun item member => ?_, ih _ others⟩
      cases token with
      | long tag payload => cases member
      | short lead payload =>
          cases List.mem_singleton.mp member
          have size := first.2
          unfold payloadSize at size
          simp only
          split at size <;> omega

theorem scan_short (descriptor : Bytes) : ∀ item ∈ (scan 0 descriptor).items, item.payload.length ≤ 4 := by
  obtain ⟨tokens, rest, wellFormed, split, ending⟩ := Token.tokens_of_bytes descriptor
  have nothing : (scan (0 + (Token.encodeAll tokens).length) rest).items = [] := by
    rcases ending with rfl | incomplete
    · rw [Token.scan_nothing]
    · rw [Token.scan_incomplete _ rest incomplete]
  rw [split, Token.scan_encode_append tokens 0 rest wellFormed, nothing, List.append_nil]
  exact items_short tokens 0 wellFormed

theorem run_in_words (reader final : Reader) (items : List Item) (kept : reader.InWords)
    (short : ∀ item ∈ items, item.payload.length ≤ 4) (ran : reader.run items = .ok final) : final.InWords := by
  induction items generalizing reader with
  | nil =>
      cases ran
      exact kept
  | cons item rest ih =>
      obtain ⟨first, others⟩ := List.forall_mem_cons.mp short
      rw [Reader.run] at ran
      cases stepped : reader.step item.offset item.directive with
      | error fault =>
          rw [stepped] at ran
          cases ran
      | ok next =>
          rw [stepped] at ran
          exact ih next (step_in_words reader next _ _ kept (item_in_words item first) stepped) others ran

theorem read_in_words (descriptor : Bytes) (catalog : Catalog) (found : read descriptor = .ok catalog) :
    catalog.InWords := by
  obtain ⟨final, ran, rfl⟩ := run_of_read descriptor catalog found
  exact (run_in_words .initial final _ initial_in_words (scan_short descriptor) ran).catalog

end Descriptor
end HidRelay
