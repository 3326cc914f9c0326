import HidRelay.Proofs.Descriptor.Faults

/-!
Two ways to write down one descriptor. An item may give its value in fewer or more bytes, and items that
mean nothing to the reader may stand anywhere between the others. The reader takes the same catalog from
both, or complains of the same thing about the item that they have in common.
-/

set_option autoImplicit false

namespace HidRelay.Descriptor

open Token (encodeAll)

-- The bounds of a field are signed numbers; every other item counts from zero.
def Item.value (item : Item) : Int :=
  if item.tag = Tag.code (.global .logicalMin) ∨ item.tag = Tag.code (.global .logicalMax) then item.signed
  else item.unsigned

theorem directive_of_value (one other : Item) (tag : one.tag = other.tag) (value : one.value = other.value) :
    one.directive = other.directive := by
  have kind : one.kind = other.kind := by rw [Item.kind, Item.kind, tag]
  unfold Item.value at value
  by_cases bound : one.tag = Tag.code (.global .logicalMin) ∨ one.tag = Tag.code (.global .logicalMax)
  · rw [if_pos bound, if_pos (tag ▸ bound)] at value
    rw [Item.directive, Item.directive, ← kind, ← tag, ← value]
    rcases bound with own | own <;> simp [Item.kind, own, Tag.code]
  · rw [if_neg bound, if_neg (tag ▸ bound), Int.natCast_inj] at value
    obtain ⟨low, high⟩ := not_or.mp bound
    rw [Item.directive, Item.directive, ← kind, ← tag, ← value]
    simp only [Tag.code] at low high
    simp only [low, high, if_false]

theorem directive_of_unused (item : Item) (main : item.tag.toNat / 4 % 4 ≠ 0)
    (unused : ∀ tag : Tag, item.tag ≠ tag.code) : item.directive = .skip := by
  rw [kind_bits] at main
  unfold Item.directive
  cases kind : item.kind with
  | mainItem => exact absurd (congrArg ItemKind.bits kind) main
  | globalItem =>
      simp only [show item.tag ≠ 0x04 from unused (.global .page), show item.tag ≠ 0x14 from unused (.global .logicalMin),
        show item.tag ≠ 0x24 from unused (.global .logicalMax), show item.tag ≠ 0x74 from unused (.global .reportSize),
        show item.tag ≠ 0x84 from unused (.global .reportId), show item.tag ≠ 0x94 from unused (.global .reportCount),
        show item.tag ≠ 0xA4 from unused .push, show item.tag ≠ 0xB4 from unused .pop, if_false]
  | localItem =>
      simp only [show item.tag ≠ 0x08 from unused .usage, show item.tag ≠ 0x18 from unused .usageMin,
        show item.tag ≠ 0x28 from unused .usageMax, or_self, if_false]
  | reservedItem => rfl

def Tag.all : List Tag :=
  [.field .input, .field .output, .field .feature, .collection, .endCollection, .global .page, .global .logicalMin,
    .global .logicalMax, .global .reportSize, .global .reportId, .global .reportCount, .push, .pop, .usage, .usageMin,
    .usageMax]

theorem Tag.mem_all (tag : Tag) : tag ∈ all := by
  rcases tag with (_ | _ | _) | _ | _ | (_ | _ | _ | _ | _ | _) | _ | _ | _ | _ | _ <;> decide

namespace Token

-- A long token, or one with a tag of no use to the reader. Main items are never fillers: whatever their
-- tag, they end the usages before them.
def Filler (token : Token) : Prop := token.isMain = false ∧ ∀ tag, token.carries tag = false

instance (token : Token) : Decidable (Filler token) :=
  decidable_of_iff (token.isMain = false ∧ ∀ tag ∈ Tag.all, token.carries tag = false) (by simp [Filler, Tag.mem_all])

theorem filler_directive (token : Token) (filler : Filler token) (offset : Nat) (item : Item)
    (found : token.item? offset = some item) : item.directive = .skip := by
  cases token with
  | long tag payload => cases found
  | short lead payload =>
      cases found
      obtain ⟨main, unused⟩ := filler
      refine directive_of_unused _ ?_ fun tag => ?_
      · simpa [isMain, tag?] using main
      · simpa [carries, tag?] using unused tag

-- One item, with its value in any of the sizes that can hold it. The last reserved tag has no form with two
-- bytes, for its lead would begin a long token.
inductive Recoded : Token → Token → Prop where
  | short (lead lead' : UInt8) (payload payload' : Bytes) (tag : lead &&& 0xFC = lead' &&& 0xFC)
      (value : (⟨0, lead &&& 0xFC, payload⟩ : Item).value = (⟨0, lead' &&& 0xFC, payload'⟩ : Item).value) :
      Recoded (.short lead payload) (.short lead' payload')

end Token

open Token (Filler Recoded)

inductive Reworded : List Token → List Token → Prop where
  | nothing : Reworded [] []
  | recoded (token token' : Token) (rest rest' : List Token) (same : Recoded token token') (later : Reworded rest rest') :
      Reworded (token :: rest) (token' :: rest')
  | filler (token : Token) (rest other : List Token) (filler : Filler token) (later : Reworded rest other) :
      Reworded (token :: rest) other
  | filler' (token : Token) (other rest : List Token) (filler : Filler token) (later : Reworded other rest) :
      Reworded other (token :: rest)

theorem Reworded.write {rest rest' : List Token} (tag : Tag) (payload payload' : Payload)
    (value : (⟨0, tag.code, payload.bytes⟩ : Item).value = (⟨0, tag.code, payload'.bytes⟩ : Item).value)
    (later : Reworded rest rest') : Reworded (tag.write payload :: rest) (tag.write payload' :: rest') := by
  refine .recoded _ _ rest rest' (.short _ _ _ _ ?_ ?_) later
  · rw [Tag.write_tag, Tag.write_tag]
  · rw [Tag.write_tag, Tag.write_tag, value]

inductive Complaint where
  | nothingToClose
  | nothingToPop
  | rangeWithoutStart
deriving DecidableEq, Repr

def Complaint.at (offset : Nat) : Complaint → Fault
  | .nothingToClose => .nothingToClose offset
  | .nothingToPop => .nothingToPop offset
  | .rangeWithoutStart => .rangeWithoutStart offset

inductive Counterparts : List Token → List Token → Nat → Nat → Prop where
  | item (before before' after after' : List Token) (token token' : Token) (earlier : Reworded before before')
      (same : Recoded token token') (later : Reworded after after') :
      Counterparts (before ++ token :: after) (before' ++ token' :: after')
        (encodeAll before).length (encodeAll before').length

namespace Counterparts

variable {left right : List Token} {place place' : Nat}

theorem recoded (token token' : Token) (same : Recoded token token') (parts : Counterparts left right place place') :
    Counterparts (token :: left) (token' :: right) (token.encode.length + place) (token'.encode.length + place') := by
  cases parts with
  | item before before' after after' inner inner' earlier own later =>
      have both := item (token :: before) (token' :: before') after after' inner inner'
        (.recoded token token' before before' same earlier) own later
      rwa [Token.encode_all_cons, Token.encode_all_cons, List.length_append, List.length_append] at both

theorem filler (token : Token) (filler : Filler token) (parts : Counterparts left right place place') :
    Counterparts (token :: left) right (token.encode.length + place) place' := by
  cases parts with
  | item before before' after after' inner inner' earlier own later =>
      have one := item (token :: before) before' after after' inner inner'
        (.filler token before before' filler earlier) own later
      rwa [Token.encode_all_cons, List.length_append] at one

theorem filler' (token : Token) (filler : Filler token) (parts : Counterparts left right place place') :
    Counterparts left (token :: right) place (token.encode.length + place') := by
  cases parts with
  | item before before' after after' inner inner' earlier own later =>
      have one := item before (token :: before') after after' inner inner'
        (.filler' token before before' filler earlier) own later
      rwa [Token.encode_all_cons, List.length_append] at one

end Counterparts

namespace Reader

theorem step_anywhere (reader : Reader) (directive : Directive) :
    (∃ next, ∀ offset, reader.step offset directive = .ok next) ∨
    ∃ complaint : Complaint, ∀ offset, reader.step offset directive = .error (complaint.at offset) := by
  cases directive with
  | endCollection =>
      cases opened : reader.collections with
      | nil => exact .inr ⟨.nothingToClose, fun offset => by rw [step, opened]; rfl⟩
      | cons closed outer => exact .inl ⟨_, fun offset => by rw [step, opened]⟩
  | pop =>
      cases pushed : reader.saved with
      | nil => exact .inr ⟨.nothingToPop, fun offset => by rw [step, pushed]; rfl⟩
      | cons globals saved => exact .inl ⟨_, fun offset => by rw [step, pushed]⟩
  | usagesUpTo last =>
      cases first : reader.usages.getLast? with
      | none => exact .inr ⟨.rangeWithoutStart, fun offset => by rw [step, first]; rfl⟩
      | some usage => exact .inl ⟨_, fun offset => by rw [step, first]⟩
  | _ => exact .inl ⟨_, fun _ => rfl⟩

theorem run_cons (reader : Reader) (item : Item) (rest : List Item) :
    reader.run (item :: rest) = (reader.step item.offset item.directive).bind fun next => next.run rest := by
  rw [run]
  cases reader.step item.offset item.directive <;> rfl

theorem run_filler (reader : Reader) (token : Token) (rest : List Token) (offset : Nat) (filler : Filler token) :
    reader.run (Token.items offset (token :: rest)) = reader.run (Token.items (offset + token.encode.length) rest) := by
  rw [Token.items]
  cases found : token.item? offset with
  | none => rfl
  | some item =>
      rw [Option.toList_some, List.singleton_append, run_cons, Token.filler_directive token filler offset item found]
      rfl

theorem run_short (reader : Reader) (lead : UInt8) (payload : Bytes) (rest : List Token) (offset : Nat) :
    reader.run (Token.items offset (.short lead payload :: rest)) =
      (reader.step offset (⟨0, lead &&& 0xFC, payload⟩ : Item).directive).bind fun next =>
        next.run (Token.items (offset + (Token.short lead payload).encode.length) rest) := by
  rw [Token.items, Token.item?, Option.toList_some, List.singleton_append, run_cons]
  rfl

theorem run_reworded (left right : List Token) (reworded : Reworded left right) (reader : Reader) (offset offset' : Nat) :
    (∃ next, reader.run (Token.items offset left) = .ok next ∧ reader.run (Token.items offset' right) = .ok next) ∨
    ∃ (complaint : Complaint) (place place' : Nat), Counterparts left right place place' ∧
      reader.run (Token.items offset left) = .error (complaint.at (offset + place)) ∧
      reader.run (Token.items offset' right) = .error (complaint.at (offset' + place')) := by
  induction reworded generalizing reader offset offset' with
  | nothing => exact .inl ⟨reader, rfl, rfl⟩
  | filler token rest other filler later ih =>
      rw [run_filler reader token rest offset filler]
      rcases ih reader (offset + token.encode.length) offset' with
        done | ⟨complaint, place, place', parts, failed, failed'⟩
      · exact .inl done
      · exact .inr ⟨complaint, _, place', parts.filler token filler, by rw [failed, Nat.add_assoc], failed'⟩
  | filler' token other rest filler later ih =>
      rw [run_filler reader token rest offset' filler]
      rcases ih reader offset (offset' + token.encode.length) with
        done | ⟨complaint, place, place', parts, failed, failed'⟩
      · exact .inl done
      · exact .inr ⟨complaint, place, _, parts.filler' token filler, failed, by rw [failed', Nat.add_assoc]⟩
  | recoded token token' rest rest' same later ih =>
      cases same with
      | short lead lead' payload payload' tag value =>
          -- Both items tell the reader the same, so both runs go on here or both stop.
          rw [run_short, run_short, ← directive_of_value _ _ tag value]
          rcases step_anywhere reader (⟨0, lead &&& 0xFC, payload⟩ : Item).directive with
            ⟨next, stepped⟩ | ⟨complaint, refused⟩
          · simp only [stepped, Except.bind]
            rcases ih next (offset + (Token.short lead payload).encode.length)
              (offset' + (Token.short lead' payload').encode.length) with
              done | ⟨complaint, place, place', parts, failed, failed'⟩
            · exact .inl done
            · exact .inr ⟨complaint, _, _, parts.recoded _ _ (.short lead lead' payload payload' tag value),
                by rw [failed, Nat.add_assoc], by rw [failed', Nat.add_assoc]⟩
          · simp only [refused, Except.bind]
            exact .inr ⟨complaint, _, _,
              .item [] [] rest rest' _ _ .nothing (.short lead lead' payload payload' tag value) later, rfl, rfl⟩

end Reader

theorem read_reworded (left right : List Token) (wellFormed : ∀ token ∈ left ++ right, token.WellFormed)
    (reworded : Reworded left right) :
    (∃ catalog, read (encodeAll left) = .ok catalog ∧ read (encodeAll right) = .ok catalog) ∨
    ∃ (complaint : Complaint) (place place' : Nat), Counterparts left right place place' ∧
      read (encodeAll left) = .error (complaint.at place) ∧ read (encodeAll right) = .error (complaint.at place') := by
  have own := Token.scan_encode_all left 0 fun token member => wellFormed token (List.mem_append_left _ member)
  have other := Token.scan_encode_all right 0 fun token member => wellFormed token (List.mem_append_right _ member)
  rcases Reader.run_reworded left right reworded .initial 0 0 with
    ⟨next, ran, ran'⟩ | ⟨complaint, place, place', parts, failed, failed'⟩
  · exact .inl ⟨next.catalog, by simp only [read, own, ran], by simp only [read, other, ran']⟩
  · rw [Nat.zero_add] at failed failed'
    exact .inr ⟨complaint, place, place', parts, by simp only [read, own, failed], by simp only [read, other, failed']⟩

-- A pointer with one axis from -127 to 127, as short as can be, and again with a vendor's long item, a
-- unit, a physical range and values of other sizes.
def tersePointer : List Token :=
  [Tag.write (.global .page) (.one 1), Tag.write .usage (.one 2), Tag.write .collection (.one 1),
    Tag.write (.global .logicalMin) (.one 0x81), Tag.write (.global .logicalMax) (.one 0x7F),
    Tag.write (.global .reportSize) (.one 8), Tag.write (.global .reportCount) (.one 1), Tag.write .usage (.one 0x30),
    Tag.write (.field .input) (.one 6), Tag.write .endCollection .none]

def wordyPointer : List Token :=
  [.long 0xF0 [0xC0, 0xC0], Tag.write (.global .page) (.two 1 0), Tag.write .usage (.one 2), .short 0x55 [0x0E],
    Tag.write .collection (.four 1 0 0 0), Tag.write (.global .logicalMin) (.four 0x81 0xFF 0xFF 0xFF),
    Tag.write (.global .logicalMax) (.two 0x7F 0), .short 0x34 [], .short 0x46 [0x7F, 0],
    Tag.write (.global .reportSize) (.one 8), Tag.write (.global .reportCount) (.two 1 0),
    Tag.write .usage (.four 0x30 0 0 0), .short 0xFC [], Tag.write (.field .input) (.two 6 0), Tag.write .endCollection (.one 0)]

theorem wordy_pointer_reworded : Reworded tersePointer wordyPointer := by
  refine .filler' _ _ _ (by decide) ?_
  refine .write (.global .page) (.one 1) (.two 1 0) rfl ?_
  refine .write .usage (.one 2) (.one 2) rfl ?_
  refine .filler' _ _ _ (by decide) ?_
  refine .write .collection (.one 1) (.four 1 0 0 0) rfl ?_
  refine .write (.global .logicalMin) (.one 0x81) (.four 0x81 0xFF 0xFF 0xFF) (by decide) ?_
  refine .write (.global .logicalMax) (.one 0x7F) (.two 0x7F 0) (by decide) ?_
  refine .filler' _ _ _ (by decide) (.filler' _ _ _ (by decide) ?_)
  refine .write (.global .reportSize) (.one 8) (.one 8) rfl ?_
  refine .write (.global .reportCount) (.one 1) (.two 1 0) rfl ?_
  refine .write .usage (.one 0x30) (.four 0x30 0 0 0) rfl ?_
  refine .filler' _ _ _ (by decide) ?_
  refine .write (.field .input) (.one 6) (.two 6 0) rfl ?_
  exact .write .endCollection .none (.one 0) rfl .nothing

theorem wordy_pointer_reads_alike : (∀ token ∈ tersePointer ++ wordyPointer, token.WellFormed) ∧
    Reworded tersePointer wordyPointer ∧
    ∃ catalog, read (encodeAll tersePointer) = .ok catalog ∧ read (encodeAll wordyPointer) = .ok catalog := by
  have wellFormed : ∀ token ∈ tersePointer ++ wordyPointer, token.WellFormed := by decide
  refine ⟨wellFormed, wordy_pointer_reworded, ?_⟩
  rcases read_reworded tersePointer wordyPointer wellFormed wordy_pointer_reworded with
    alike | ⟨complaint, place, _, _, failed, _⟩
  · exact alike
  · have accepted : (read (encodeAll tersePointer)).toBool = true := by decide +kernel
    rw [failed] at accepted
    cases accepted

end HidRelay.Descriptor
