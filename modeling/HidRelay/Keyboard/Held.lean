import HidRelay.Report.Slots

/-!
The keys that a keyboard report says are down: usages of one page, each once, in the order in which
the report names them.
-/

set_option autoImplicit false

namespace HidRelay.Keyboard

open Report (Field Layout Placed Decoded ReadError)

structure Held where
  page : UInt16
  keys : List UInt16
  distinct : keys.Nodup
deriving DecidableEq, Repr

namespace Held

def empty (page : UInt16) : Held := ⟨page, [], List.nodup_nil⟩

theorem distinct_append (keys : List UInt16) (key : UInt16) (distinct : keys.Nodup) (fresh : key ∉ keys) :
    (keys ++ [key]).Nodup := by
  refine List.nodup_append.mpr ⟨distinct, by simp, fun held member other last => ?_⟩
  rintro rfl
  exact fresh (List.mem_singleton.mp last ▸ member)

def press (held : Held) (key : UInt16) : Held :=
  if fresh : key ∉ held.keys then
    ⟨held.page, held.keys ++ [key], distinct_append held.keys key held.distinct fresh⟩
  else held

def isDown (held : Held) (key : UInt16) : Bool := held.keys.contains key

theorem press_page (held : Held) (key : UInt16) : (held.press key).page = held.page := by
  unfold press
  split <;> rfl

end Held

-- Keys come as one bit for each usage, or as bytes or 16-bit words that name the usage.
def isKeyField (field : Field) : Bool :=
  field.usages ≠ [] ∧ (field.isBitmap ∨ field.width = 8 ∨ field.width = 16)

-- A bitmap has no more usages than bits. A slot with value zero names no key.
def fieldKeys (report : Bytes) (placed : Placed) : List UInt16 × Option ReadError :=
  if placed.field.isBitmap then
    let read := placed.readSlots report 0 (min placed.field.usages.length placed.field.count)
    (((placed.field.usages.zip read.1).filter (·.2 ≠ 0)).map (·.1), read.2)
  else
    let read := placed.readSlots report 0 placed.field.count
    ((read.1.filter (· ≠ 0)).map UInt16.ofNat, read.2)

-- The first key field decides the page; fields of other pages do not count.
def decode (report : Bytes) (layout : Layout) : Decoded Held :=
  let eligible := layout.placed.filter fun placed => isKeyField placed.field
  let page := (eligible.head?.map fun placed => placed.field.page).getD 0
  let read := (eligible.filter fun placed => placed.field.page = page).map (fieldKeys report)
  ⟨(read.flatMap (·.1)).foldl Held.press (Held.empty page), read.findSome? (·.2)⟩

end HidRelay.Keyboard
