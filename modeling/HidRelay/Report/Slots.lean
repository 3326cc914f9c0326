import HidRelay.Report.Bits
import HidRelay.Report.Layout

set_option autoImplicit false

namespace HidRelay.Report

structure Decoded (σ : Type) where
  state : σ
  error : Option ReadError
deriving DecidableEq, Repr

def Decoded.complete {σ : Type} (decoded : Decoded σ) : Bool := decoded.error.isNone

namespace Placed

def readSlots (report : Bytes) (placed : Placed) (first : Nat) : Nat → List Nat × Option ReadError
  | 0 => ([], none)
  | remaining + 1 =>
      match readUnsigned report (placed.slot first) placed.field.width with
      | .error error => ([], some error)
      | .ok value =>
          let later := placed.readSlots report (first + 1) remaining
          (value :: later.1, later.2)

theorem read_slots_length (report : Bytes) (placed : Placed) (first remaining : Nat) :
    (placed.readSlots report first remaining).1.length ≤ remaining := by
  induction remaining generalizing first with
  | zero => simp [readSlots]
  | succ remaining ih =>
      simp only [readSlots]
      split
      · simp
      · simpa using ih (first + 1)

theorem read_slots_complete (report : Bytes) (placed : Placed) (first remaining : Nat) :
    (placed.readSlots report first remaining).2 = none ↔
      (placed.readSlots report first remaining).1.length = remaining := by
  induction remaining generalizing first with
  | zero => simp [readSlots]
  | succ remaining ih =>
      simp only [readSlots]
      split
      · simp
      · simpa using ih (first + 1)

end Placed
end HidRelay.Report
