import HidRelay.Usage
import HidRelay.Keyboard.ScanTable

set_option autoImplicit false

namespace HidRelay.Keyboard

def rowsOfPage (page : UInt16) : Array Row :=
  match UsagePage.ofCode page with
  | .genericDesktop => ScanTable.systemControl
  | .keyboard => ScanTable.keyboard
  | .consumer => ScanTable.consumer
  | _ => #[]

def findBetween (rows : Array Row) (usage : UInt16) (low high : Nat) : Option Row :=
  if _nonempty : low < high then
    let middle := (low + high) / 2
    match rows[middle]? with
    | none => none
    | some row =>
        if usage = row.usage then some row
        else if usage < row.usage then findBetween rows usage low middle
        else findBetween rows usage (middle + 1) high
  else none
termination_by high - low

def findRow (rows : Array Row) (usage : UInt16) : Option Row := findBetween rows usage 0 rows.size

theorem find_between_usage (rows : Array Row) (usage : UInt16) (low high : Nat) (row : Row)
    (found : findBetween rows usage low high = some row) : row ∈ rows ∧ row.usage = usage := by
  fun_induction findBetween rows usage low high with
  | case1 => cases found
  | case2 low high _ middle row' present same =>
      cases found
      exact ⟨Array.mem_of_getElem? present, same.symm⟩
  | case3 low high _ middle row' present different less ih => exact ih found
  | case4 low high _ middle row' present different notLess ih => exact ih found
  | case5 => cases found

structure LookupMiss where
  page : UInt16
  usage : UInt16
  set : UInt8
deriving DecidableEq, Repr

def LookupMiss.message (miss : LookupMiss) : String :=
  let usage := Word.hexadecimal 4 miss.usage.toNat
  let page := Word.hexadecimal 4 miss.page.toNat
  s!"no set {miss.set} scan code for usage 0x{usage} on page 0x{page}"

def lookup (set : ScanSet) (page usage : UInt16) (transition : Transition) : Except LookupMiss ScanCode :=
  match (findRow (rowsOfPage page) usage).bind fun row => row.code.scanCode set transition with
  | some code => .ok code
  | none => .error ⟨page, usage, set.number⟩

end HidRelay.Keyboard
