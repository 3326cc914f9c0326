import HidRelay.Proofs.Keyboard.HostKeys

/-!
The keyboard wire as a host reads it: codes one behind the other, with nothing between them. The host
can tell from the bytes themselves where a code ends, and from the code whether a key went down or up.
So what was sent comes back whole, transition by transition.
-/

set_option autoImplicit false

namespace HidRelay.Keyboard

namespace ScanSet

def announces (set : ScanSet) (byte : UInt8) : Bool := byte = 0xE0 ∨ set = .two ∧ byte = 0xF0

-- E1 begins the code of Pause and no other one.
def pauseTail : ScanSet → Nat
  | .one => 5
  | .two => 7

def firstCode (set : ScanSet) : Bytes → Option (Bytes × Bytes)
  | [] => none
  | byte :: rest =>
      if set.announces byte then (set.firstCode rest).map fun found => (byte :: found.1, found.2)
      else if byte = 0xE1 then
        if set.pauseTail ≤ rest.length then some (byte :: rest.take set.pauseTail, rest.drop set.pauseTail) else none
      else some ([byte], rest)

-- Keys that are never released have codes of their own, which a host of set 1 would take for releases.
def pressedOnce : List Bytes := [[0xF1], [0xF2], [0xFC], [0xFF], [0xE1, 0x1D, 0x45, 0xE1, 0x9D, 0xC5]]

def transitionOf : ScanSet → Bytes → Transition
  | .one, code => if code ∉ pressedOnce ∧ code.getLast?.any (0x80 ≤ ·) then .release else .press
  | .two, code => if code.head? ≠ some 0xE1 ∧ 0xF0 ∈ code then .release else .press

def Spells (set : ScanSet) (transition : Transition) (code : Bytes) : Prop :=
  set.firstCode code = some (code, []) ∧ set.transitionOf code = transition

instance (set : ScanSet) (transition : Transition) (code : Bytes) : Decidable (set.Spells transition code) :=
  inferInstanceAs (Decidable (set.firstCode code = some (code, []) ∧ set.transitionOf code = transition))

theorem first_code_split (set : ScanSet) (stream code rest : Bytes) (found : set.firstCode stream = some (code, rest)) :
    stream = code ++ rest ∧ code ≠ [] := by
  induction stream generalizing code with
  | nil => cases found
  | cons byte tail ih =>
      rw [firstCode] at found
      split at found
      case isTrue =>
        obtain ⟨⟨inner, behind⟩, later, same⟩ := Option.map_eq_some_iff.mp found
        cases same
        exact ⟨congrArg (byte :: ·) (ih inner later).1, List.cons_ne_nil _ _⟩
      case isFalse =>
        split at found
        case isTrue =>
          split at found
          case isTrue =>
            cases found
            exact ⟨congrArg (byte :: ·) (List.take_append_drop _ tail).symm, List.cons_ne_nil _ _⟩
          case isFalse => cases found
        case isFalse =>
          cases found
          exact ⟨rfl, List.cons_ne_nil _ _⟩

theorem first_code_shortens (set : ScanSet) (stream code rest : Bytes)
    (found : set.firstCode stream = some (code, rest)) : rest.length < stream.length := by
  obtain ⟨split, some⟩ := first_code_split set stream code rest found
  have positive := List.length_pos_iff.mpr some
  rw [split, List.length_append]
  omega

theorem first_code_append (set : ScanSet) (code rest : Bytes) (whole : set.firstCode code = some (code, [])) :
    set.firstCode (code ++ rest) = some (code, rest) := by
  induction code with
  | nil => cases whole
  | cons byte tail ih =>
      rw [firstCode] at whole
      rw [List.cons_append, firstCode]
      by_cases announces : set.announces byte
      · rw [if_pos announces] at whole ⊢
        obtain ⟨⟨inner, behind⟩, later, same⟩ := Option.map_eq_some_iff.mp whole
        cases same
        rw [ih later, Option.map_some]
      · rw [if_neg announces] at whole ⊢
        by_cases pause : byte = 0xE1
        · rw [if_pos pause] at whole ⊢
          split at whole
          case isTrue enough =>
            obtain ⟨taken, dropped⟩ := Prod.mk.inj (Option.some.inj whole)
            have level := Nat.le_antisymm (List.drop_eq_nil_iff.mp dropped) enough
            rw [if_pos (by rw [List.length_append]; omega), ← level, List.take_left, List.drop_left]
          case isFalse => cases whole
        · rw [if_neg pause] at whole ⊢
          cases whole
          rfl

def codes (set : ScanSet) (stream : Bytes) : List (Transition × Bytes) :=
  match _found : set.firstCode stream with
  | none => []
  | some (code, rest) => (set.transitionOf code, code) :: set.codes rest
termination_by stream.length
decreasing_by exact first_code_shortens set stream code rest _found

theorem codes_nothing (set : ScanSet) : set.codes [] = [] := by
  rw [codes]
  rfl

theorem codes_cons (set : ScanSet) (transition : Transition) (code rest : Bytes) (spells : set.Spells transition code) :
    set.codes (code ++ rest) = (transition, code) :: set.codes rest := by
  have found := first_code_append set code rest spells.1
  rw [codes]
  split
  case h_1 absent =>
    rw [found] at absent
    cases absent
  case h_2 present =>
    rw [found] at present
    cases present
    rw [spells.2]

theorem codes_of_spelled {α : Type} (set : ScanSet) (items : List α) (reading : α → Transition × Bytes)
    (spells : ∀ item ∈ items, set.Spells (reading item).1 (reading item).2) :
    set.codes (items.flatMap fun item => (reading item).2) = items.map reading := by
  induction items with
  | nil => exact codes_nothing set
  | cons first rest ih =>
      have later := ih fun item member => spells item (List.mem_cons_of_mem _ member)
      rw [List.flatMap_cons, codes_cons set _ _ _ (spells first List.mem_cons_self), later]
      rfl

end ScanSet

def ScanCode.bytes? : ScanCode → Option Bytes
  | .silent => none
  | .bytes sequence => some sequence

def Row.Spelled (row : Row) (set : ScanSet) (transition : Transition) : Prop :=
  ∀ code ∈ (row.code.scanCode set transition).bind ScanCode.bytes?, set.Spells transition code

instance (row : Row) (set : ScanSet) (transition : Transition) : Decidable (row.Spelled set transition) :=
  inferInstanceAs (Decidable (∀ code ∈ (row.code.scanCode set transition).bind ScanCode.bytes?, set.Spells transition code))

def ScanTable.rows : List Row :=
  ScanTable.systemControl.toList ++ ScanTable.keyboard.toList ++ ScanTable.consumer.toList

theorem rows_spelled : ∀ row ∈ ScanTable.rows, ∀ set ∈ [ScanSet.one, .two],
    ∀ transition ∈ [Transition.press, .release], row.Spelled set transition := by
  decide +kernel

theorem row_spelled (row : Row) (listed : row ∈ ScanTable.rows) (set : ScanSet) (transition : Transition) :
    row.Spelled set transition := by
  refine rows_spelled row listed set ?_ transition ?_
  · cases set <;> decide
  · cases transition <;> decide

theorem rows_of_page_listed (page : UInt16) (row : Row) (member : row ∈ rowsOfPage page) : row ∈ ScanTable.rows := by
  simp only [ScanTable.rows, List.mem_append, Array.mem_toList_iff]
  unfold rowsOfPage at member
  split at member
  · exact .inl (.inl member)
  · exact .inl (.inr member)
  · exact .inr member
  · exact absurd member (Array.not_mem_empty row)

theorem lookup_spells (set : ScanSet) (page usage : UInt16) (transition : Transition) (code : Bytes)
    (found : lookup set page usage transition = .ok (.bytes code)) : set.Spells transition code := by
  obtain ⟨row, present, coded⟩ := (lookup_ok_iff set page usage transition _).mp found
  have member := (find_between_usage _ usage _ _ row present).1
  refine row_spelled row (rows_of_page_listed page row member) set transition code ?_
  rw [coded]
  rfl

def Change.sent (set : ScanSet) (change : Change) : Bytes :=
  match change.lookup set with
  | .ok (.bytes code) => code
  | _ => []

def Change.Coded (set : ScanSet) (change : Change) : Prop := ∃ code, change.lookup set = .ok (.bytes code)

instance (set : ScanSet) (change : Change) : Decidable (change.Coded set) :=
  match found : change.lookup set with
  | .ok (.bytes code) => .isTrue ⟨code, found⟩
  | .ok .silent => .isFalse fun ⟨_, coded⟩ => nomatch found.symm.trans coded
  | .error _ => .isFalse fun ⟨_, coded⟩ => nomatch found.symm.trans coded

theorem sent_spells (set : ScanSet) (change : Change) (coded : change.Coded set) :
    set.Spells change.transition (change.sent set) := by
  obtain ⟨code, found⟩ := coded
  rw [Change.sent, found]
  exact lookup_spells set change.page change.usage change.transition code found

def Change.reading (set : ScanSet) (change : Change) : Transition × Bytes := (change.transition, change.sent set)

theorem codes_of_changes (set : ScanSet) (changes : List Change) (coded : ∀ change ∈ changes, change.Coded set) :
    set.codes (changes.flatMap (·.sent set)) = changes.map (·.reading set) :=
  set.codes_of_spelled changes (·.reading set) fun change member => sent_spells set change (coded change member)

def KeyEvent.Genuine (set : ScanSet) (event : KeyEvent) : Prop :=
  lookup set event.page event.usage event.transition = .ok (.bytes event.code)

def KeyEvent.reading (event : KeyEvent) : Transition × Bytes := (event.transition, event.code)

theorem codes_of_events (set : ScanSet) (events : List KeyEvent) (genuine : ∀ event ∈ events, event.Genuine set) :
    set.codes (events.flatMap (·.code)) = events.map (·.reading) :=
  set.codes_of_spelled events KeyEvent.reading fun event member =>
    lookup_spells set event.page event.usage event.transition event.code (genuine event member)

theorem encode_genuine (encoder : Encoder) (current : Held) :
    ∀ event ∈ (encoder.encode current).2.events, event.Genuine encoder.set := by
  intro event member
  obtain ⟨change, _, sent⟩ := List.mem_filterMap.mp member
  obtain ⟨sameKey, sameWay, found⟩ := code_of_event encoder.set change event sent
  obtain ⟨samePage, sameUsage⟩ := Key.mk.inj sameKey
  rw [KeyEvent.Genuine, samePage, sameUsage, sameWay]
  exact found

end HidRelay.Keyboard
