import HidRelay.Proofs.Keyboard.Listing
import Mathlib.Data.List.Nodup

/-!
Finding a key by halving against reading its page's listing from the top. Halving gives up half of the
rows at every step, which is right only where they are in order.
-/

set_option autoImplicit false

namespace HidRelay.Keyboard

def Ordered (rows : Array Row) : Prop := InOrder (rows.toList.map (·.usage))

-- What a search owes for rows in order: the row of the usage, or that there is none.
def SearchContract (rows : Array Row) (usage : UInt16) : Option Row → Prop
  | some row => row ∈ rows ∧ row.usage = usage
  | none => ∀ row ∈ rows, row.usage ≠ usage

def KeepsContract (search : Array Row → UInt16 → Option Row) : Prop :=
  ∀ rows usage, Ordered rows → SearchContract rows usage (search rows usage)

theorem usage_le (rows : Array Row) (ordered : Ordered rows) (earlier later : Nat) (before : earlier ≤ later)
    (first second : Row) (firstHere : rows[earlier]? = some first) (secondHere : rows[later]? = some second) :
    first.usage ≤ second.usage := by
  rcases Nat.eq_or_lt_of_le before with rfl | less
  · rw [firstHere] at secondHere
    cases secondHere
    exact UInt16.le_refl _
  · obtain ⟨firstInside, rfl⟩ := Array.getElem?_eq_some_iff.mp firstHere
    obtain ⟨secondInside, rfl⟩ := Array.getElem?_eq_some_iff.mp secondHere
    have pairs := List.pairwise_iff_getElem.mp (List.pairwise_map.mp ordered)
    exact UInt16.le_of_lt (pairs earlier later firstInside secondInside less)

-- Induction on the halves. The half that is given up lies on the far side of the middle row.
theorem find_between_none (rows : Array Row) (usage : UInt16) (low high : Nat) (ordered : Ordered rows)
    (inside : high ≤ rows.size) (missed : findBetween rows usage low high = none) (index : Nat) (above : low ≤ index)
    (below : index < high) (row : Row) (here : rows[index]? = some row) : row.usage ≠ usage := by
  fun_induction findBetween rows usage low high with
  | case1 low high nonempty middle beyond =>
      have outside := Array.getElem?_eq_none_iff.mp beyond
      omega
  | case2 => cases missed
  | case3 low high nonempty middle row' present different less ih =>
      by_cases left : index < middle
      · exact ih (by omega) missed above left
      · have behind := usage_le rows ordered middle index (by omega) row' row present here
        exact (UInt16.ne_of_lt (UInt16.lt_of_lt_of_le less behind)).symm
  | case4 low high nonempty middle row' present different notLess ih =>
      by_cases right : middle < index
      · exact ih inside missed right below
      · have ahead := usage_le rows ordered index middle (by omega) row row' here present
        have greater := UInt16.lt_of_le_of_ne (UInt16.not_lt.mp notLess) (Ne.symm different)
        exact UInt16.ne_of_lt (UInt16.lt_of_le_of_lt ahead greater)
  | case5 low high empty => omega

theorem find_row_keeps : KeepsContract findRow := by
  intro rows usage ordered
  cases found : findRow rows usage with
  | some row => exact find_between_usage rows usage 0 rows.size row found
  | none =>
      intro row member
      obtain ⟨index, here⟩ := Array.getElem?_of_mem member
      have within : index < rows.size := (Array.getElem?_eq_some_iff.mp here).1
      exact find_between_none rows usage 0 rows.size ordered (Nat.le_refl _) found index (Nat.zero_le _) within row here

-- A single row out of its place, and halving no longer sees a row that is there.
example : findRow #[⟨0x05, .silent⟩, ⟨0x04, .silent⟩, ⟨0x06, .silent⟩] 0x05 = none := by decide +kernel

namespace Listing

def first (page usage : UInt16) : Option Entry := (ofPage page).find? fun entry => entry.usage = usage

theorem listed_once (page : UInt16) (left right : Entry) (leftListed : left ∈ ofPage page) (rightListed : right ∈ ofPage page)
    (same : left.usage = right.usage) : left = right := by
  have distinct : ((ofPage page).map (·.usage)).Nodup := (in_order page).imp UInt16.ne_of_lt
  exact List.inj_on_of_nodup_map distinct leftListed rightListed same

theorem first_eq_none_iff (page usage : UInt16) :
    first page usage = none ↔ ∀ entry ∈ ofPage page, entry.usage ≠ usage := by
  rw [first, List.find?_eq_none]
  simp only [decide_eq_true_eq, ne_eq]

theorem listed_of_first (page usage : UInt16) (entry : Entry) (found : first page usage = some entry) :
    entry ∈ ofPage page ∧ entry.usage = usage := by
  rw [first] at found
  have own := List.find?_some found
  exact ⟨List.mem_of_find?_eq_some found, of_decide_eq_true own⟩

theorem first_of_listed (page : UInt16) (entry : Entry) (listed : entry ∈ ofPage page) :
    first page entry.usage = some entry := by
  cases found : first page entry.usage with
  | none => exact absurd rfl ((first_eq_none_iff page entry.usage).mp found entry listed)
  | some other =>
      obtain ⟨otherListed, same⟩ := listed_of_first page entry.usage other found
      rw [listed_once page other entry otherListed listed same]

theorem first_of_contract (page usage : UInt16) (result : Option Row)
    (contract : SearchContract (rowsOfPage page) usage result) : first page usage = result.map Row.entry := by
  cases result with
  | some row =>
      obtain ⟨member, rfl⟩ := contract
      have listed : row.entry ∈ (rowsOfPage page).toList.map Row.entry :=
        List.mem_map_of_mem (Array.mem_toList_iff.mpr member)
      rw [rows_listed] at listed
      exact first_of_listed page row.entry listed
  | none =>
      refine (first_eq_none_iff page usage).mpr fun entry listed => ?_
      rw [← rows_listed] at listed
      obtain ⟨row, member, rfl⟩ := List.mem_map.mp listed
      exact contract row (Array.mem_toList_iff.mp member)

def cell (set : ScanSet) (page usage : UInt16) (transition : Transition) : Option Cell :=
  (first page usage).map (·.cell set transition)

def scan (set : ScanSet) (page usage : UInt16) (transition : Transition) : Except LookupMiss ScanCode :=
  match cell set page usage transition with
  | some .silent => .ok .silent
  | some (.bytes code) => .ok (.bytes code)
  | some .unassigned | none => .error ⟨page, usage, set.number⟩

section

variable (set : ScanSet) (page usage : UInt16) (transition : Transition)

def Lists (known : Cell) : Prop := ∃ entry ∈ ofPage page, entry.usage = usage ∧ entry.cell set transition = known

theorem cell_eq_some_iff (known : Cell) :
    cell set page usage transition = some known ↔ Lists set page usage transition known := by
  rw [cell, Option.map_eq_some_iff]
  constructor
  · rintro ⟨entry, found, same⟩
    obtain ⟨listed, own⟩ := listed_of_first page usage entry found
    exact ⟨entry, listed, own, same⟩
  · rintro ⟨entry, listed, rfl, same⟩
    exact ⟨entry, first_of_listed page entry listed, same⟩

theorem cell_eq_none_iff :
    cell set page usage transition = none ↔ ∀ entry ∈ ofPage page, entry.usage ≠ usage := by
  rw [cell, Option.map_eq_none_iff, first_eq_none_iff]

theorem scan_ok_iff (code : ScanCode) :
    scan set page usage transition = .ok code ↔ Lists set page usage transition code.cell := by
  rw [← cell_eq_some_iff, scan]
  cases cell set page usage transition with
  | none => simp
  | some known => cases known <;> cases code <;> simp [ScanCode.cell]

theorem scan_error_iff (miss : LookupMiss) :
    scan set page usage transition = .error miss ↔ miss = ⟨page, usage, set.number⟩ ∧
      ((∀ entry ∈ ofPage page, entry.usage ≠ usage) ∨ Lists set page usage transition .unassigned) := by
  rw [← cell_eq_none_iff set page usage transition, ← cell_eq_some_iff, scan]
  cases cell set page usage transition with
  | none => simp [eq_comm]
  | some known => cases known <;> simp [eq_comm]

end

end Listing

def lookupBy (search : Array Row → UInt16 → Option Row) (set : ScanSet) (page usage : UInt16) (transition : Transition) :
    Except LookupMiss ScanCode :=
  match (search (rowsOfPage page) usage).bind fun row => row.code.scanCode set transition with
  | some code => .ok code
  | none => .error ⟨page, usage, set.number⟩

theorem lookup_by_contract (search : Array Row → UInt16 → Option Row) (keeps : KeepsContract search) (set : ScanSet)
    (page usage : UInt16) (transition : Transition) :
    lookupBy search set page usage transition = Listing.scan set page usage transition := by
  have contract := keeps (rowsOfPage page) usage (Listing.rows_in_order page)
  rw [lookupBy, Listing.scan, Listing.cell, Listing.first_of_contract page usage _ contract, Option.map_map]
  cases search (rowsOfPage page) usage with
  | none => rfl
  | some row =>
      rw [Option.bind_some, Option.map_some, Function.comp_apply, entry_cell, KeyCode.cell]
      cases row.code.scanCode set transition with
      | none => rfl
      | some code => cases code <;> rfl

theorem lookup_scan (set : ScanSet) (page usage : UInt16) (transition : Transition) :
    lookup set page usage transition = Listing.scan set page usage transition :=
  lookup_by_contract findRow find_row_keeps set page usage transition

theorem lookup_reads_listing (set : ScanSet) (page usage : UInt16) (transition : Transition) :
    lookup set page usage transition = Listing.scan set page usage transition ∧
    (∀ search, KeepsContract search →
      lookupBy search set page usage transition = Listing.scan set page usage transition) ∧
    (∀ miss, lookup set page usage transition = .error miss ↔ miss = ⟨page, usage, set.number⟩ ∧
      ((∀ entry ∈ Listing.ofPage page, entry.usage ≠ usage) ∨
        Listing.Lists set page usage transition .unassigned)) ∧
    (lookup set page usage transition = .ok .silent ↔ Listing.Lists set page usage transition .silent) ∧
    (∀ code, lookup set page usage transition = .ok (.bytes code) ↔
      Listing.Lists set page usage transition (.bytes code)) := by
  rw [lookup_scan]
  refine ⟨rfl, fun search keeps => ?_, fun miss => ?_, ?_, fun code => ?_⟩
  · exact lookup_by_contract search keeps set page usage transition
  · exact Listing.scan_error_iff set page usage transition miss
  · exact Listing.scan_ok_iff set page usage transition .silent
  · exact Listing.scan_ok_iff set page usage transition (.bytes code)

theorem web_home_read : KeepsContract findRow ∧
    lookupBy findRow .two 0x0C 0x0223 .release = .ok (.bytes [0xE0, 0xF0, 0x3A]) := by
  refine ⟨find_row_keeps, ?_⟩
  rw [(lookup_reads_listing .two 0x0C 0x0223 .release).2.1 findRow find_row_keeps]
  rfl

end HidRelay.Keyboard
