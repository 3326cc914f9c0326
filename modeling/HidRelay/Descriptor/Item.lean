import HidRelay.Word

/-!
A report descriptor as a sequence of tokens. A short token is one lead byte with the value bytes that
its low two bits announce; a long token announces its length in a byte of its own and carries no item.
-/

set_option autoImplicit false

namespace HidRelay.Descriptor

inductive Token where
  | short (lead : UInt8) (payload : Bytes)
  | long (tag : UInt8) (payload : Bytes)
deriving DecidableEq, Repr

def longLead : UInt8 := 0xFE

def payloadSize (lead : UInt8) : Nat :=
  match lead.toNat % 4 with
  | 0 => 0
  | 1 => 1
  | 2 => 2
  | _ => 4

namespace Token

def encode : Token → Bytes
  | .short lead payload => lead :: payload
  | .long tag payload => longLead :: UInt8.ofNat payload.length :: tag :: payload

def read (lead : UInt8) (following : Bytes) : Option (Token × Bytes) :=
  if lead = longLead then
    match following with
    | size :: tag :: body =>
        if size.toNat ≤ body.length then some (.long tag (body.take size.toNat), body.drop size.toNat) else none
    | _ => none
  else if payloadSize lead ≤ following.length then
    some (.short lead (following.take (payloadSize lead)), following.drop (payloadSize lead))
  else none

theorem read_encode (lead : UInt8) (following rest : Bytes) (token : Token)
    (done : read lead following = some (token, rest)) : lead :: following = token.encode ++ rest := by
  unfold read at done
  split at done
  case isTrue isLong =>
    cases following with
    | nil => cases done
    | cons size tail =>
        cases tail with
        | nil => cases done
        | cons tag body =>
            simp only at done
            split at done
            case isTrue enough =>
              cases done
              have length : (body.take size.toNat).length = size.toNat := by simp [enough]
              simp [encode, isLong, length]
            case isFalse => cases done
  case isFalse =>
    split at done
    · cases done
      simp [encode]
    · cases done

theorem read_shortens (lead : UInt8) (following rest : Bytes) (token : Token)
    (done : read lead following = some (token, rest)) : rest.length < (lead :: following).length := by
  rw [read_encode lead following rest token done]
  cases token with
  | short lead payload => simp only [encode, List.length_append, List.length_cons]; omega
  | long tag payload => simp only [encode, List.length_append, List.length_cons]; omega

end Token

inductive ItemKind where
  | mainItem
  | globalItem
  | localItem
  | reservedItem
deriving DecidableEq, Repr

structure Item where
  offset : Nat
  tag : UInt8
  payload : Bytes
deriving DecidableEq, Repr

namespace Item

def kind (item : Item) : ItemKind :=
  match item.tag.toNat / 4 % 4 with
  | 0 => .mainItem
  | 1 => .globalItem
  | 2 => .localItem
  | _ => .reservedItem

def size (item : Item) : Nat := item.payload.length
def unsigned (item : Item) : Nat := Word.ofBytes item.payload
def signed (item : Item) : Int := Word.toSigned (8 * item.size) item.unsigned

end Item

def Token.item? (offset : Nat) : Token → Option Item
  | .short lead payload => some ⟨offset, lead &&& 0xFC, payload⟩
  | .long _ _ => none

-- The items up to the first incomplete token, and where that token begins.
structure Scan where
  items : List Item
  truncated : Option Nat
deriving DecidableEq, Repr

def scan (offset : Nat) (bytes : Bytes) : Scan :=
  match bytes with
  | [] => ⟨[], none⟩
  | lead :: following =>
      match _found : Token.read lead following with
      | none => ⟨[], some offset⟩
      | some (token, rest) =>
          let later := scan (offset + token.encode.length) rest
          ⟨(token.item? offset).toList ++ later.items, later.truncated⟩
termination_by bytes.length
decreasing_by exact Token.read_shortens lead following rest token _found

end HidRelay.Descriptor
