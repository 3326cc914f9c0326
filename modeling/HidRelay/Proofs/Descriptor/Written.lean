import HidRelay.Descriptor.Reader
import HidRelay.Proofs.Descriptor.Tokens

set_option autoImplicit false

namespace HidRelay.Descriptor

open Report (Kind)

inductive Payload where
  | none
  | one (b0 : UInt8)
  | two (b0 b1 : UInt8)
  | four (b0 b1 b2 b3 : UInt8)
deriving DecidableEq, Repr

namespace Payload

def bytes : Payload → Bytes
  | .none => []
  | .one b0 => [b0]
  | .two b0 b1 => [b0, b1]
  | .four b0 b1 b2 b3 => [b0, b1, b2, b3]

def sizeCode : Payload → UInt8
  | .none => 0
  | .one _ => 1
  | .two _ _ => 2
  | .four _ _ _ _ => 3

def unsigned (payload : Payload) : Nat := Word.ofBytes payload.bytes
def signed (payload : Payload) : Int := Word.toSigned (8 * payload.bytes.length) payload.unsigned

end Payload

inductive Setting where
  | page
  | logicalMin
  | logicalMax
  | reportSize
  | reportId
  | reportCount
deriving DecidableEq, Repr

inductive Tag where
  | field (kind : Kind)
  | collection
  | endCollection
  | global (setting : Setting)
  | push
  | pop
  | usage
  | usageMin
  | usageMax
deriving DecidableEq, Repr

namespace Tag

def code : Tag → UInt8
  | .field .input => 0x80
  | .field .output => 0x90
  | .field .feature => 0xB0
  | .collection => 0xA0
  | .endCollection => 0xC0
  | .global .page => 0x04
  | .global .logicalMin => 0x14
  | .global .logicalMax => 0x24
  | .global .reportSize => 0x74
  | .global .reportId => 0x84
  | .global .reportCount => 0x94
  | .push => 0xA4
  | .pop => 0xB4
  | .usage => 0x08
  | .usageMin => 0x18
  | .usageMax => 0x28

def directive (payload : Payload) : Tag → Directive
  | .field kind => .declare kind
  | .collection => .beginCollection (payload.unsigned % 256 = 1)
  | .endCollection => .endCollection
  | .global .page => .page (UInt16.ofNat payload.unsigned)
  | .global .logicalMin => .logicalMin payload.signed
  | .global .logicalMax => .logicalMax payload.signed
  | .global .reportSize => .reportSize payload.unsigned
  | .global .reportId => .reportId (UInt8.ofNat payload.unsigned)
  | .global .reportCount => .reportCount payload.unsigned
  | .push => .push
  | .pop => .pop
  | .usage => .usage (UInt16.ofNat payload.unsigned)
  | .usageMin => .usage (UInt16.ofNat payload.unsigned)
  | .usageMax => .usagesUpTo payload.unsigned

def write (tag : Tag) (payload : Payload) : Token := .short (tag.code ||| payload.sizeCode) payload.bytes

theorem write_not_long (tag : Tag) (payload : Payload) : tag.code ||| payload.sizeCode ≠ longLead := by
  cases payload <;> simp only [Payload.sizeCode] <;>
    rcases tag with (_ | _ | _) | _ | _ | (_ | _ | _ | _ | _ | _) | _ | _ | _ | _ | _ <;> decide

theorem write_size (tag : Tag) (payload : Payload) :
    payload.bytes.length = payloadSize (tag.code ||| payload.sizeCode) := by
  cases payload <;> simp only [Payload.sizeCode, Payload.bytes] <;>
    rcases tag with (_ | _ | _) | _ | _ | (_ | _ | _ | _ | _ | _) | _ | _ | _ | _ | _ <;> rfl

theorem write_well_formed (tag : Tag) (payload : Payload) : (tag.write payload).WellFormed :=
  ⟨write_not_long tag payload, write_size tag payload⟩

theorem write_tag (tag : Tag) (payload : Payload) : (tag.code ||| payload.sizeCode) &&& 0xFC = tag.code := by
  cases payload <;> simp only [Payload.sizeCode] <;>
    rcases tag with (_ | _ | _) | _ | _ | (_ | _ | _ | _ | _ | _) | _ | _ | _ | _ | _ <;> rfl

theorem directive_of_code (tag : Tag) (payload : Payload) (offset : Nat) :
    (⟨offset, tag.code, payload.bytes⟩ : Item).directive = tag.directive payload := by
  rcases tag with (_ | _ | _) | _ | _ | (_ | _ | _ | _ | _ | _) | _ | _ | _ | _ | _ <;>
    simp [Item.directive, Item.kind, code, directive] <;> rfl

end Tag

def Accepts (reader : Reader) (tokens : List Token) (next : Reader) : Prop :=
  ∀ offset, reader.run (Token.items offset tokens) = .ok next

namespace Reader

theorem run_append (reader : Reader) (before after : List Item) :
    reader.run (before ++ after) = (reader.run before).bind fun next => next.run after := by
  induction before generalizing reader with
  | nil => rfl
  | cons item rest ih =>
      rw [List.cons_append, run, run]
      cases reader.step item.offset item.directive with
      | error fault => rfl
      | ok next => exact ih next

theorem accepts_nothing (reader : Reader) : Accepts reader [] reader := fun _ => rfl

theorem accepts_append (first second third : Reader) (before after : List Token)
    (start : Accepts first before second) (finish : Accepts second after third) :
    Accepts first (before ++ after) third := by
  intro offset
  rw [Token.items_append, run_append, start offset]
  exact finish _

theorem accepts_write (reader next : Reader) (tag : Tag) (payload : Payload)
    (stepped : ∀ offset, reader.step offset (tag.directive payload) = .ok next) :
    Accepts reader [tag.write payload] next := by
  intro offset
  have item : Token.items offset [tag.write payload] = [⟨offset, tag.code, payload.bytes⟩] := by
    rw [← Tag.write_tag tag payload]
    rfl
  rw [item, run, Tag.directive_of_code tag payload offset, stepped offset]
  rfl

end Reader

theorem read_of_accepts (tokens : List Token) (next : Reader) (wellFormed : ∀ token ∈ tokens, token.WellFormed)
    (accepted : Accepts .initial tokens next) : read (Token.encodeAll tokens) = .ok next.catalog := by
  have scanned := Token.scan_encode_all tokens 0 wellFormed
  have ran := accepted 0
  simp only [read, scanned, ran]

end HidRelay.Descriptor
