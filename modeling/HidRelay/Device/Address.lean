import HidRelay.OrderedTable
import HidRelay.Word

/-!
Device addresses: six bytes, stored with the least significant first and written with the most
significant first. Tables order them by their stored bytes.
-/

set_option autoImplicit false

namespace HidRelay.Device

structure Address where
  b0 : UInt8
  b1 : UInt8
  b2 : UInt8
  b3 : UInt8
  b4 : UInt8
  b5 : UInt8
deriving DecidableEq, Repr

namespace Address

def bytes (address : Address) : Bytes :=
  [address.b0, address.b1, address.b2, address.b3, address.b4, address.b5]

def ofBytes? : Bytes → Option Address
  | [b0, b1, b2, b3, b4, b5] => some ⟨b0, b1, b2, b3, b4, b5⟩
  | _ => none

def position (address : Address) : Nat :=
  address.bytes.foldl (fun position byte => 256 * position + byte.toNat) 0

theorem position_injective (left right : Address) (same : left.position = right.position) : left = right := by
  obtain ⟨a0, a1, a2, a3, a4, a5⟩ := left
  obtain ⟨b0, b1, b2, b3, b4, b5⟩ := right
  simp only [position, bytes, List.foldl_cons, List.foldl_nil] at same
  have boundsA := And.intro a0.toNat_lt (And.intro a1.toNat_lt (And.intro a2.toNat_lt
    (And.intro a3.toNat_lt (And.intro a4.toNat_lt a5.toNat_lt))))
  have boundsB := And.intro b0.toNat_lt (And.intro b1.toNat_lt (And.intro b2.toNat_lt
    (And.intro b3.toNat_lt (And.intro b4.toNat_lt b5.toNat_lt))))
  simp only [mk.injEq, ← UInt8.toNat_inj]
  omega

instance : Ranked Address where
  rank := position
  rank_injective := fun {left right} => position_injective left right

def text (address : Address) : String :=
  ":".intercalate (address.bytes.reverse.map fun byte => (Word.hexadecimal 2 byte.toNat).toUpper)

end Address
end HidRelay.Device
