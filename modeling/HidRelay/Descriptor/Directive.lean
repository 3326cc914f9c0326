import HidRelay.Descriptor.Item
import HidRelay.Report.Layout

/-!
What one item tells the reader of a descriptor. Items with tags of no use here tell it nothing,
except that every main item ends the usages declared before it.
-/

set_option autoImplicit false

namespace HidRelay.Descriptor

open Report (Kind)

inductive Directive where
  | declare (kind : Kind)
  | beginCollection (application : Bool)
  | endCollection
  | otherMain
  | page (code : UInt16)
  | logicalMin (value : Int)
  | logicalMax (value : Int)
  | reportSize (width : Nat)
  | reportId (id : UInt8)
  | reportCount (count : Nat)
  | push
  | pop
  | usage (usage : UInt16)
  | usagesUpTo (last : Nat)
  | skip
deriving DecidableEq, Repr

namespace Item

-- Usages are narrowed to 16 bits and report IDs to 8; the low byte of a collection item is its type,
-- of which only the application type counts. The start of a usage range is declared like any usage.
def directive (item : Item) : Directive :=
  match item.kind with
  | .mainItem =>
      if item.tag = 0x80 then .declare .input
      else if item.tag = 0x90 then .declare .output
      else if item.tag = 0xB0 then .declare .feature
      else if item.tag = 0xA0 then .beginCollection (item.unsigned % 256 = 1)
      else if item.tag = 0xC0 then .endCollection
      else .otherMain
  | .globalItem =>
      if item.tag = 0x04 then .page (UInt16.ofNat item.unsigned)
      else if item.tag = 0x14 then .logicalMin item.signed
      else if item.tag = 0x24 then .logicalMax item.signed
      else if item.tag = 0x74 then .reportSize item.unsigned
      else if item.tag = 0x84 then .reportId (UInt8.ofNat item.unsigned)
      else if item.tag = 0x94 then .reportCount item.unsigned
      else if item.tag = 0xA4 then .push
      else if item.tag = 0xB4 then .pop
      else .skip
  | .localItem =>
      if item.tag = 0x08 ∨ item.tag = 0x18 then .usage (UInt16.ofNat item.unsigned)
      else if item.tag = 0x28 then .usagesUpTo item.unsigned
      else .skip
  | .reservedItem => .skip

end Item

end HidRelay.Descriptor
