import HidRelay.Word

/-!
Values inside a report: `width` bits from bit `offset`, the first bit being the lowest of the first byte.
-/

set_option autoImplicit false

namespace HidRelay.Report

inductive ReadError where
  | outOfBounds (offset width length : Nat)
  | tooWide (width : Nat)
deriving DecidableEq, Repr

def ReadError.message : ReadError → String
  | .outOfBounds offset width length => s!"bits {offset}+{width} exceed a {length}-byte report"
  | .tooWide width => s!"{width}-bit value does not fit in 32 bits"

-- Only the bytes that the value touches are looked at, five at the most.
def spanned (report : Bytes) (offset width : Nat) : Bytes :=
  (report.drop (offset / 8)).take ((offset + width - 1) / 8 + 1 - offset / 8)

def readUnsigned (report : Bytes) (offset width : Nat) : Except ReadError Nat :=
  if width = 0 then .ok 0
  else if 32 < width then .error (.tooWide width)
  else if 8 * report.length < offset + width then .error (.outOfBounds offset width report.length)
  else .ok (Word.ofBytes (spanned report offset width) / Word.span (offset % 8) % Word.span width)

def readSigned (report : Bytes) (offset width : Nat) : Except ReadError Int :=
  (readUnsigned report offset width).map (Word.toSigned width)

def readBit (report : Bytes) (offset : Nat) : Except ReadError Bool :=
  (readUnsigned report offset 1).map (· ≠ 0)

theorem read_unsigned_lt (report : Bytes) (offset width value : Nat)
    (read : readUnsigned report offset width = .ok value) : value < Word.span width := by
  unfold readUnsigned at read
  split at read
  · cases read; exact Word.span_pos width
  · split at read
    · cases read
    · split at read
      · cases read
      · cases read; exact Nat.mod_lt _ (Word.span_pos width)

end HidRelay.Report
