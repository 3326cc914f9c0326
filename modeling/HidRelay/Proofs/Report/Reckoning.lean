import Mathlib.Data.List.Basic
import HidRelay.Proofs.Report.SlotReads

/-!
Positions with the arithmetic left open. A position that was stopped at the limit lies behind the end of
any report below 2 ^ 29 bytes, and so does the exact one, so that reading there comes to the same by both.
-/

set_option autoImplicit false

namespace HidRelay.Report

structure Reckoning where
  stop : Nat → Nat
  overflows : Nat → Bool

namespace Reckoning

def word : Reckoning := ⟨capped, fun number => 4294967296 ≤ number⟩

def exact : Reckoning := ⟨id, fun _ => false⟩

end Reckoning

def placeBy (reckoning : Reckoning) (start : Nat) : List Field → List Placed
  | [] => []
  | field :: rest =>
      ⟨start, field⟩ :: placeBy reckoning (reckoning.stop (start + reckoning.stop (field.width * field.count))) rest

namespace Placed

def slotBy (reckoning : Reckoning) (placed : Placed) (index : Nat) : Nat :=
  reckoning.stop (placed.offset + reckoning.stop (index * placed.field.width))

def readSlotsBy (reckoning : Reckoning) (report : Bytes) (placed : Placed) (first : Nat) :
    Nat → List Nat × Option ReadError
  | 0 => ([], none)
  | remaining + 1 =>
      match readUnsigned report (placed.slotBy reckoning first) placed.field.width with
      | .error error => ([], some error)
      | .ok value =>
          let later := placed.readSlotsBy reckoning report (first + 1) remaining
          (value :: later.1, later.2)

def stopped (placed : Placed) : Placed := ⟨capped placed.offset, placed.field⟩

end Placed

theorem place_by_word (start : Nat) (fields : List Field) : placeBy .word start fields = place start fields := by
  induction fields generalizing start with
  | nil => rfl
  | cons field rest ih => exact congrArg (List.cons _) (ih _)

theorem read_slots_by_word (report : Bytes) (placed : Placed) (first remaining : Nat) :
    placed.readSlotsBy .word report first remaining = placed.readSlots report first remaining := by
  induction remaining generalizing first with
  | zero => rfl
  | succ remaining ih =>
      have same : placed.slotBy .word first = placed.slot first := rfl
      rw [Placed.readSlotsBy, Placed.readSlots, same]
      cases readUnsigned report (placed.slot first) placed.field.width with
      | error error => rfl
      | ok value => exact congrArg (fun later => (value :: later.1, later.2)) (ih (first + 1))

theorem place_stopped (start : Nat) (fields : List Field) :
    place (capped start) fields = (placeBy .exact start fields).map Placed.stopped := by
  induction fields generalizing start with
  | nil => rfl
  | cons field rest ih =>
      have next : capped (capped start + field.bitLength) = capped (start + field.width * field.count) := by
        rw [Field.bitLength, add_capped, capped_add]
      rw [place, next, ih, placeBy, List.map_cons]
      rfl

theorem layout_stopped (layout : Layout) : layout.placed = (placeBy .exact 0 layout.fields).map Placed.stopped :=
  place_stopped 0 layout.fields

theorem slot_stopped (placed : Placed) (index : Nat) :
    placed.stopped.slot index = capped (placed.slotBy .exact index) := slot_exact placed.offset index placed.field

section

variable (report : Bytes) (short : report.length < 536870912)

include short

theorem read_unsigned_stopped (position width : Nat) :
    readUnsigned report (capped position) width = readUnsigned report position width ∨
    ∃ error error', readUnsigned report (capped position) width = .error error ∧
      readUnsigned report position width = .error error' := by
  by_cases readable : Readable report position width
  · left
    rcases readable with none | ⟨_, inside⟩
    · rw [readUnsigned, readUnsigned, if_pos none, if_pos none]
    · rw [capped_of_le position (by omega)]
  · right
    obtain ⟨error, failed⟩ := read_unsigned_unreadable report (capped position) width
      (mt (readable_capped report position width (.inr short)).mp readable)
    obtain ⟨error', failed'⟩ := read_unsigned_unreadable report position width readable
    exact ⟨error, error', failed, failed'⟩

theorem read_signed_stopped (position width : Nat) :
    readSigned report (capped position) width = readSigned report position width ∨
    ∃ error error', readSigned report (capped position) width = .error error ∧
      readSigned report position width = .error error' := by
  unfold readSigned
  rcases read_unsigned_stopped report short position width with same | ⟨error, error', failed, failed'⟩
  · exact .inl (by rw [same])
  · exact .inr ⟨error, error', by rw [failed]; rfl, by rw [failed']; rfl⟩

end

structure Alike {α : Type} (one other : List α × Option ReadError) : Prop where
  read : one.1 = other.1
  whole : one.2 = none ↔ other.2 = none

namespace Alike

variable {α β : Type}

theorem refl (one : List α × Option ReadError) : Alike one one := ⟨rfl, Iff.rfl⟩

theorem failed (error error' : ReadError) : Alike (([], some error) : List α × Option ReadError) ([], some error') :=
  ⟨rfl, by simp⟩

theorem cons {one other : List α × Option ReadError} (value : α) (alike : Alike one other) :
    Alike (value :: one.1, one.2) (value :: other.1, other.2) := ⟨congrArg (List.cons value) alike.read, alike.whole⟩

theorem all (items : List β) (one other : β → List α × Option ReadError) (alike : ∀ item ∈ items, Alike (one item) (other item)) :
    (items.map one).flatMap (·.1) = (items.map other).flatMap (·.1) ∧
    ((items.map one).findSome? (·.2) = none ↔ (items.map other).findSome? (·.2) = none) := by
  rw [List.flatMap_map, List.flatMap_map, List.findSome?_eq_none_iff, List.findSome?_eq_none_iff, List.forall_mem_map,
    List.forall_mem_map]
  exact ⟨List.flatMap_congr fun item member => (alike item member).read,
    forall₂_congr fun item member => (alike item member).whole⟩

end Alike

theorem read_slots_stopped (report : Bytes) (short : report.length < 536870912) (placed : Placed) (first remaining : Nat) :
    Alike (placed.stopped.readSlots report first remaining) (placed.readSlotsBy .exact report first remaining) := by
  induction remaining generalizing first with
  | zero => exact .refl _
  | succ remaining ih =>
      rw [Placed.readSlots, Placed.readSlotsBy, slot_stopped]
      rcases read_unsigned_stopped report short (placed.slotBy .exact first) placed.field.width with
        same | ⟨error, error', failed, failed'⟩
      · have width : placed.stopped.field.width = placed.field.width := rfl
        rw [width, same]
        cases readUnsigned report (placed.slotBy .exact first) placed.field.width with
        | error error => exact .refl _
        | ok value => exact .cons value (ih (first + 1))
      · have width : placed.stopped.field.width = placed.field.width := rfl
        rw [width, failed, failed']
        exact .failed error error'

end HidRelay.Report
