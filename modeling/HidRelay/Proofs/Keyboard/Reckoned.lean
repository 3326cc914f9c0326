import HidRelay.Keyboard.Held
import HidRelay.Proofs.Report.Reckoning

/-!
The keys of a report with the arithmetic of positions left open. Reckoned in words this is how reports are
decoded; reckoned exactly it gives the same keys for any report below 2 ^ 29 bytes, and misses some part of
the report exactly if decoding does.
-/

set_option autoImplicit false

namespace HidRelay.Keyboard

open Report (Field Layout Placed Decoded ReadError Reckoning Alike placeBy)

def fieldKeysBy (reckoning : Reckoning) (report : Bytes) (placed : Placed) : List UInt16 × Option ReadError :=
  if placed.field.isBitmap then
    let read := placed.readSlotsBy reckoning report 0 (min placed.field.usages.length placed.field.count)
    (((placed.field.usages.zip read.1).filter (·.2 ≠ 0)).map (·.1), read.2)
  else
    let read := placed.readSlotsBy reckoning report 0 placed.field.count
    ((read.1.filter (· ≠ 0)).map UInt16.ofNat, read.2)

def decodeBy (reckoning : Reckoning) (report : Bytes) (layout : Layout) : Decoded Held :=
  let eligible := (placeBy reckoning 0 layout.fields).filter fun placed => isKeyField placed.field
  let page := (eligible.head?.map fun placed => placed.field.page).getD 0
  let read := (eligible.filter fun placed => placed.field.page = page).map (fieldKeysBy reckoning report)
  ⟨(read.flatMap (·.1)).foldl Held.press (Held.empty page), read.findSome? (·.2)⟩

theorem field_keys_by_word (report : Bytes) (placed : Placed) :
    fieldKeysBy .word report placed = fieldKeys report placed := by
  simp only [fieldKeysBy, fieldKeys, Report.read_slots_by_word]

theorem decode_by_word (report : Bytes) (layout : Layout) : decodeBy .word report layout = decode report layout := by
  have keys : fieldKeysBy .word report = fieldKeys report := funext (field_keys_by_word report)
  rw [decodeBy, keys, Report.place_by_word]
  rfl

theorem field_keys_stopped (report : Bytes) (short : report.length < 536870912) (placed : Placed) :
    Alike (fieldKeys report placed.stopped) (fieldKeysBy .exact report placed) := by
  have alike := Report.read_slots_stopped report short placed 0
  unfold fieldKeys fieldKeysBy
  have field : placed.stopped.field = placed.field := rfl
  rw [field]
  split
  · refine ⟨?_, (alike _).whole⟩
    simp only [(alike _).read]
  · refine ⟨?_, (alike _).whole⟩
    simp only [(alike _).read]

theorem decode_exactly (report : Bytes) (short : report.length < 536870912) (layout : Layout) :
    (decode report layout).state = (decodeBy .exact report layout).state ∧
    ((decode report layout).error = none ↔ (decodeBy .exact report layout).error = none) := by
  have eligible : (layout.placed.filter fun placed => isKeyField placed.field) =
      ((placeBy .exact 0 layout.fields).filter fun placed => isKeyField placed.field).map Placed.stopped := by
    rw [Report.layout_stopped, List.filter_map]
    rfl
  simp only [decode, decodeBy, eligible, List.head?_map, Option.map_map, List.filter_map, List.map_map]
  obtain ⟨read, whole⟩ := Alike.all _ (fieldKeys report ∘ Placed.stopped) (fieldKeysBy .exact report)
    fun placed _ => field_keys_stopped report short placed
  exact ⟨congrArg (List.foldl Held.press _) read, whole⟩

end HidRelay.Keyboard
