import Mathlib.Data.List.Sort
import HidRelay.Proofs.Pointer.Sites
import HidRelay.Proofs.Report.Reckoning

/-!
The controls of a report with the arithmetic left open, and with the bits of a button field taken one after
the other. Decoding goes to the few bits that stand for a button at once, which comes to the same.
-/

set_option autoImplicit false

namespace HidRelay.Pointer

open Report (Field Layout Placed Decoded ReadError Reckoning Alike Readable placeBy readSigned)

-- Buttons are counted from one, and there are eight.
def buttonOf (number : Nat) : Option (Fin 8) :=
  if inRange : 1 ≤ number ∧ number ≤ 8 then some ⟨number - 1, by omega⟩ else none

theorem button_of_iff (number : Nat) (index : Fin 8) : buttonOf number = some index ↔ number = index.val + 1 := by
  have bound := index.isLt
  unfold buttonOf
  split
  · simp only [Option.some.injEq, Fin.ext_iff]
    omega
  · simp only [reduceCtorEq, false_iff]
    omega

theorem button_of_none (number : Nat) : buttonOf number = none ↔ ¬ (1 ≤ number ∧ number ≤ 8) := by
  unfold buttonOf
  split <;> simp_all

inductive Turn where
  | passed
  | read (index : Fin 8) (value : Int)
  | failed (index : Fin 8) (error : ReadError)
  | overflowed
deriving DecidableEq, Repr

namespace Turn

def button? : Turn → Option (Fin 8)
  | .read index _ => some index
  | .failed index _ => some index
  | _ => none

def value? : Turn → Option (Control × Int)
  | .read index value => some (.button index, value)
  | _ => none

def error? : Turn → Option ReadError
  | .failed _ error => some error
  | _ => none

end Turn

structure Visit where
  number : Nat
  turn : Turn
deriving DecidableEq, Repr

-- The bits from `bit` on, up to the first that has no number, or that stands for a button and cannot be read.
def visits (reckoning : Reckoning) (report : Bytes) (placed : Placed) (first bit : Nat) : Nat → List Visit
  | 0 => []
  | remaining + 1 =>
      if reckoning.overflows (first + bit) then [⟨first + bit, .overflowed⟩]
      else
        match buttonOf (first + bit) with
        | none => ⟨first + bit, .passed⟩ :: visits reckoning report placed first (bit + 1) remaining
        | some index =>
            match readSigned report (placed.slotBy reckoning bit) placed.field.width with
            | .error error => [⟨first + bit, .failed index error⟩]
            | .ok value => ⟨first + bit, .read index value⟩ :: visits reckoning report placed first (bit + 1) remaining

def gathered (visits : List Visit) : Except NumberOverflow (List (Control × Int) × Option ReadError) :=
  if visits.any (·.turn = .overflowed) then .error ⟨⟩
  else .ok (visits.filterMap (·.turn.value?), visits.findSome? (·.turn.error?))

def readControlsBy (reckoning : Reckoning) (report : Bytes) (placed : Placed) :
    List (Control × Nat) → List (Control × Int) × Option ReadError
  | [] => ([], none)
  | (control, slot) :: rest =>
      match readSigned report (placed.slotBy reckoning slot) placed.field.width with
      | .error error => ([], some error)
      | .ok value =>
          let later := readControlsBy reckoning report placed rest
          ((control, value) :: later.1, later.2)

def readFieldBy (reckoning : Reckoning) (report : Bytes) (placed : Placed) :
    Except NumberOverflow (List (Control × Int) × Option ReadError) :=
  match UsagePage.ofCode placed.field.page with
  | .genericDesktop => .ok (readControlsBy reckoning report placed (usageSlots desktopControl placed.field.usages))
  | .consumer => .ok (readControlsBy reckoning report placed (usageSlots consumerControl placed.field.usages))
  | .button =>
      match placed.field.usages with
      | [] => .ok ([], none)
      | first :: _ =>
          if placed.field.isBitmap then gathered (visits reckoning report placed first.toNat 0 placed.field.count)
          else .ok ([], none)
  | _ => .ok ([], none)

def decodeBy (reckoning : Reckoning) (report : Bytes) (layout : Layout) : Except NumberOverflow (Decoded State) :=
  ((placeBy reckoning 0 layout.fields).mapM (readFieldBy reckoning report)).map gather

theorem read_controls_by_word (report : Bytes) (placed : Placed) (slots : List (Control × Nat)) :
    readControlsBy .word report placed slots = readControls report placed slots := by
  induction slots with
  | nil => rfl
  | cons entry rest ih =>
      have same : placed.slotBy .word entry.2 = placed.slot entry.2 := rfl
      rw [readControlsBy, readControls, same]
      cases readSigned report (placed.slot entry.2) placed.field.width with
      | error error => rfl
      | ok value => exact congrArg (fun later => ((entry.1, value) :: later.1, later.2)) ih

def onward (entry : Control × Int) (later : List (Control × Int) × Option ReadError) :
    List (Control × Int) × Option ReadError := (entry :: later.1, later.2)

section

variable (reckoning : Reckoning) (report : Bytes) (placed : Placed) (first bit remaining : Nat)

theorem visits_succ :
    (reckoning.overflows (first + bit) = true ∧
      visits reckoning report placed first bit (remaining + 1) = [⟨first + bit, .overflowed⟩]) ∨
    (reckoning.overflows (first + bit) = false ∧
      ((buttonOf (first + bit) = none ∧
        visits reckoning report placed first bit (remaining + 1) =
          ⟨first + bit, .passed⟩ :: visits reckoning report placed first (bit + 1) remaining) ∨
      (∃ index value, buttonOf (first + bit) = some index ∧
        readSigned report (placed.slotBy reckoning bit) placed.field.width = .ok value ∧
        visits reckoning report placed first bit (remaining + 1) =
          ⟨first + bit, .read index value⟩ :: visits reckoning report placed first (bit + 1) remaining) ∨
      (∃ index error, buttonOf (first + bit) = some index ∧
        readSigned report (placed.slotBy reckoning bit) placed.field.width = .error error ∧
        visits reckoning report placed first bit (remaining + 1) = [⟨first + bit, .failed index error⟩]))) := by
  rw [visits]
  cases reckoning.overflows (first + bit) with
  | true => exact .inl ⟨rfl, rfl⟩
  | false =>
      refine .inr ⟨rfl, ?_⟩
      cases buttonOf (first + bit) with
      | none => exact .inl ⟨rfl, rfl⟩
      | some index =>
          cases readSigned report (placed.slotBy reckoning bit) placed.field.width with
          | error error => exact .inr (.inr ⟨index, error, rfl, rfl, rfl⟩)
          | ok value => exact .inr (.inl ⟨index, value, rfl, rfl, rfl⟩)

end

theorem gathered_read (number : Nat) (index : Fin 8) (value : Int) (visits : List Visit) :
    gathered (⟨number, .read index value⟩ :: visits) = (gathered visits).map (onward (.button index, value)) := by
  simp only [gathered, List.any_cons, reduceCtorEq, decide_false, Bool.false_or]
  split <;> rfl

theorem counted_onward (overflows : Bool) (entry : Control × Int) (later : List (Control × Int) × Option ReadError) :
    counted overflows (onward entry later) = (counted overflows later).map (onward entry) := by
  unfold counted onward
  split <;> rfl

theorem counted_failed (overflows : Bool) (error : ReadError) : counted overflows ([], some error) = .ok ([], some error) :=
  if_neg fun both => Option.some_ne_none error both.2

def numberedSlots (first bit remaining : Nat) : List (Control × Nat) :=
  (List.range' bit remaining).filterMap fun slot => (buttonOf (first + slot)).map fun index => (.button index, slot)

theorem numbered_slots_succ (first bit remaining : Nat) :
    numberedSlots first bit (remaining + 1) =
      ((buttonOf (first + bit)).map fun index => (Control.button index, bit)).toList ++
        numberedSlots first (bit + 1) remaining := by
  rw [numberedSlots, List.range'_succ, List.filterMap_cons]
  cases buttonOf (first + bit) <;> rfl

theorem mem_numbered_slots (first bit remaining : Nat) (control : Control) (slot : Nat) :
    (control, slot) ∈ numberedSlots first bit remaining ↔
      ∃ index, control = .button index ∧ bit ≤ slot ∧ slot < bit + remaining ∧ first + slot = index.val + 1 := by
  simp only [numberedSlots, List.mem_filterMap, List.mem_range'_1, Option.map_eq_some_iff, button_of_iff, Prod.mk.injEq]
  constructor
  · rintro ⟨_, ⟨above, below⟩, index, number, rfl, rfl⟩
    exact ⟨index, rfl, above, below, number⟩
  · rintro ⟨index, rfl, above, below, number⟩
    exact ⟨slot, ⟨above, below⟩, index, number, rfl, rfl⟩

theorem numbered_slots_past (first bit remaining : Nat) (past : 8 < first + bit) :
    numberedSlots first bit remaining = [] := by
  refine List.eq_nil_iff_forall_not_mem.mpr fun entry member => ?_
  obtain ⟨index, _, above, _, number⟩ := (mem_numbered_slots first bit remaining entry.1 entry.2).mp member
  omega

theorem numbered_slots_ascending (first bit remaining : Nat) :
    (numberedSlots first bit remaining).Pairwise fun earlier later => earlier.2 < later.2 := by
  have ordered : (List.range' bit remaining).Pairwise (· < ·) := List.pairwise_lt_range' ..
  refine ordered.filterMap _ fun one other order slot found slot' found' => ?_
  obtain ⟨_, _, rfl⟩ := Option.map_eq_some_iff.mp found
  obtain ⟨_, _, rfl⟩ := Option.map_eq_some_iff.mp found'
  exact order

theorem ascending_unique (one other : List (Control × Nat))
    (ascending : one.Pairwise fun earlier later => earlier.2 < later.2)
    (ascending' : other.Pairwise fun earlier later => earlier.2 < later.2)
    (same : ∀ entry, entry ∈ one ↔ entry ∈ other) : one = other := by
  have antisymm : Std.Antisymm fun earlier later : Control × Nat => earlier.2 < later.2 :=
    ⟨fun _ _ less more => absurd more (Nat.lt_asymm less)⟩
  have irrefl : Std.Irrefl fun earlier later : Control × Nat => earlier.2 < later.2 := ⟨fun _ => Nat.lt_irrefl _⟩
  exact ascending.eq_of_mem_iff ascending' same

theorem button_slots_numbered (first count : Nat) : buttonSlots first count = numberedSlots first 0 count := by
  refine ascending_unique _ _ (button_slots_ascending first count) (numbered_slots_ascending first 0 count) ?_
  rintro ⟨control, slot⟩
  rw [mem_numbered_slots, mem_button_slots]
  simp

theorem visits_outcome (reckoning : Reckoning) (late : ∀ number, reckoning.overflows number → 8 < number)
    (report : Bytes) (placed : Placed) (first bit remaining : Nat) :
    gathered (visits reckoning report placed first bit remaining) =
      counted ((List.range' bit remaining).any fun slot => reckoning.overflows (first + slot))
        (readControlsBy reckoning report placed (numberedSlots first bit remaining)) := by
  induction remaining generalizing bit with
  | zero => rfl
  | succ remaining ih =>
      rw [List.range'_succ, List.any_cons]
      rcases visits_succ reckoning report placed first bit remaining with
        ⟨overflows, all⟩ | ⟨within, ⟨number, all⟩ | ⟨index, value, number, read, all⟩ | ⟨index, error, number, failed, all⟩⟩
      -- Numbers overflow behind the buttons only, so no slot is left out here.
      · rw [all, overflows, numbered_slots_past first bit _ (late _ overflows)]
        rfl
      · rw [all, numbered_slots_succ, number, within]
        exact ih (bit + 1)
      · rw [all, numbered_slots_succ, number, within, gathered_read, ih (bit + 1), Bool.false_or, ← counted_onward,
          Option.map_some, Option.toList_some, List.singleton_append, readControlsBy, read]
        rfl
      · rw [all, numbered_slots_succ, number, Option.map_some, Option.toList_some, List.singleton_append, readControlsBy, failed]
        exact (counted_failed _ error).symm

theorem words_run_out (first count : Nat) (small : first < 65536) :
    ((List.range' 0 count).any fun slot => Reckoning.word.overflows (first + slot)) =
      decide (4294967296 < first + count) := by
  rw [Bool.eq_iff_iff]
  simp only [List.any_eq_true, List.mem_range'_1, Reckoning.word, decide_eq_true_eq]
  constructor
  · rintro ⟨slot, ⟨_, below⟩, past⟩
    omega
  · intro many
    exact ⟨count - 1, ⟨Nat.zero_le _, by omega⟩, by omega⟩

theorem bits_by_word (report : Bytes) (placed : Placed) (first count : Nat) (small : first < 65536) :
    gathered (visits .word report placed first 0 count) =
      counted (4294967296 < first + count) (readControls report placed (buttonSlots first count)) := by
  have late : ∀ number, Reckoning.word.overflows number → 8 < number := by
    intro number past
    simp only [Reckoning.word, decide_eq_true_eq] at past
    omega
  rw [visits_outcome .word late, words_run_out first count small, read_controls_by_word, button_slots_numbered]

theorem bits_exactly (report : Bytes) (placed : Placed) (first count : Nat) :
    gathered (visits .exact report placed first 0 count) =
      .ok (readControlsBy .exact report placed (buttonSlots first count)) := by
  have never : ((List.range' 0 count).any fun slot => Reckoning.exact.overflows (first + slot)) = false := by
    simp [Reckoning.exact]
  rw [visits_outcome .exact (fun _ past => absurd past Bool.false_ne_true), never, button_slots_numbered]
  rfl

theorem read_field_by_word (report : Bytes) (placed : Placed) : readFieldBy .word report placed = readField report placed := by
  unfold readFieldBy readField outnumbered fieldSlots
  cases UsagePage.ofCode placed.field.page with
  | genericDesktop =>
      simp only [read_controls_by_word]
      rfl
  | consumer =>
      simp only [read_controls_by_word]
      rfl
  | button =>
      cases placed.field.usages with
      | nil => rfl
      | cons first rest =>
          by_cases bitmap : placed.field.isBitmap
          · simp only [bitmap, if_true, Bool.true_and]
            exact bits_by_word report placed first.toNat placed.field.count first.toNat_lt
          · simp only [bitmap]
            rfl
  | _ => rfl

theorem read_field_exactly (report : Bytes) (placed : Placed) :
    readFieldBy .exact report placed = .ok (readControlsBy .exact report placed (fieldSlots placed.field)) := by
  unfold readFieldBy fieldSlots
  cases UsagePage.ofCode placed.field.page with
  | button =>
      cases placed.field.usages with
      | nil => rfl
      | cons first rest =>
          by_cases bitmap : placed.field.isBitmap
          · simp only [bitmap, if_true]
            exact bits_exactly report placed first.toNat placed.field.count
          · simp only [bitmap]
            rfl
  | _ => rfl

theorem decode_by_word (report : Bytes) (layout : Layout) : decodeBy .word report layout = decode report layout := by
  have read : readFieldBy .word report = readField report := funext (read_field_by_word report)
  rw [decodeBy, read, Report.place_by_word]
  rfl

theorem read_controls_stopped (report : Bytes) (short : report.length < 536870912) (placed : Placed)
    (slots : List (Control × Nat)) :
    Alike (readControls report placed.stopped slots) (readControlsBy .exact report placed slots) := by
  induction slots with
  | nil => exact .refl _
  | cons entry rest ih =>
      have width : placed.stopped.field.width = placed.field.width := rfl
      rw [readControls, readControlsBy, Report.slot_stopped, width]
      rcases Report.read_signed_stopped report short (placed.slotBy .exact entry.2) placed.field.width with
        same | ⟨error, error', failed, failed'⟩
      · rw [same]
        cases readSigned report (placed.slotBy .exact entry.2) placed.field.width with
        | error error => exact .refl _
        | ok value => exact .cons (entry.1, value) ih
      · rw [failed, failed']
        exact .failed error error'

theorem decode_exactly (report : Bytes) (short : report.length < 536870912) (layout : Layout) :
    ∃ exact, decodeBy .exact report layout = .ok exact ∧ (readings report layout).state = exact.state ∧
      ((readings report layout).error = none ↔ exact.error = none) := by
  have each := all_counted (placeBy .exact 0 layout.fields) (readFieldBy .exact report) _
    fun placed _ => read_field_exactly report placed
  refine ⟨_, by rw [decodeBy, each]; rfl, ?_⟩
  obtain ⟨read, whole⟩ := Alike.all (placeBy .exact 0 layout.fields)
    ((fun placed => readControls report placed (fieldSlots placed.field)) ∘ Placed.stopped)
    (fun placed => readControlsBy .exact report placed (fieldSlots placed.field))
    fun placed _ => read_controls_stopped report short placed (fieldSlots placed.field)
  simp only [readings, gather, Report.layout_stopped, List.map_map]
  exact ⟨congrArg (List.foldl _ _) read, whole⟩

end HidRelay.Pointer
